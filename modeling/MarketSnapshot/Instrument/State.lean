import MarketSnapshot.Field.Form

namespace MarketSnapshot

structure InstrumentState where
  symbol : Text
  /-- An integer when the state is read, and later whatever its symbol is registered with. -/
  conId : Value
  tickerId : Int
  bidPrice : Binary64
  askPrice : Binary64
  bidSize : Int
  askSize : Int
  quoteTimestamp : Int
  hasQuote : Bool
  lastPrice : Binary64
  lastSize : Int
  tradeTimestamp : Int
  hasTrade : Bool
  exchange : Text
  pastLimit : Bool

namespace InstrumentState

def subject : String := "InstrumentState"

def fieldNames : List String :=
  ["symbol", "con_id", "ticker_id", "bid_price", "ask_price", "bid_size", "ask_size",
    "quote_timestamp", "has_quote", "last_price", "last_size", "trade_timestamp", "has_trade",
    "exchange", "past_limit"]

def check (entries : Entries) : Field.Checked InstrumentState :=
  open MarketSnapshot.Field in
  let integer name := optional entries name readInt64 0
  let price name := optional entries name readNumber Binary64.zero
  let flag name := optional entries name readFlag false
  Checked.valid (fun symbol conId => InstrumentState.mk symbol (.int conId))
    |>.apply (required entries "symbol" readEncodableText)
    |>.apply (integer "con_id")
    |>.apply (integer "ticker_id")
    |>.apply (price "bid_price")
    |>.apply (price "ask_price")
    |>.apply (integer "bid_size")
    |>.apply (integer "ask_size")
    |>.apply (integer "quote_timestamp")
    |>.apply (flag "has_quote")
    |>.apply (price "last_price")
    |>.apply (integer "last_size")
    |>.apply (integer "trade_timestamp")
    |>.apply (flag "has_trade")
    |>.apply (optional entries "exchange" readEncodableText [])
    |>.apply (flag "past_limit")
    |>.also (unexpected entries fieldNames)

def read (entries : Entries) : Except Field.Rejection InstrumentState :=
  (check entries).result subject

def readNamed (fields : Table Text Value) : Except Field.Rejection InstrumentState :=
  Field.readNamed subject read fields

def entries (s : InstrumentState) : Entries :=
  [("symbol", .text s.symbol), ("con_id", s.conId), ("ticker_id", .int s.tickerId),
    ("bid_price", .float s.bidPrice), ("ask_price", .float s.askPrice),
    ("bid_size", .int s.bidSize), ("ask_size", .int s.askSize),
    ("quote_timestamp", .int s.quoteTimestamp), ("has_quote", .bool s.hasQuote),
    ("last_price", .float s.lastPrice), ("last_size", .int s.lastSize),
    ("trade_timestamp", .int s.tradeTimestamp), ("has_trade", .bool s.hasTrade),
    ("exchange", .text s.exchange), ("past_limit", .bool s.pastLimit)]

def latestTimestamp (s : InstrumentState) : Int := max s.quoteTimestamp s.tradeTimestamp

def isPublishable (s : InstrumentState) : Bool := s.hasQuote && s.hasTrade

def initial (symbol : Text) (conId tickerId : Int) : InstrumentState where
  symbol := symbol
  conId := .int conId
  tickerId := tickerId
  bidPrice := Binary64.zero
  askPrice := Binary64.zero
  bidSize := 0
  askSize := 0
  quoteTimestamp := 0
  hasQuote := false
  lastPrice := Binary64.zero
  lastSize := 0
  tradeTimestamp := 0
  hasTrade := false
  exchange := []
  pastLimit := false

end InstrumentState

end MarketSnapshot
