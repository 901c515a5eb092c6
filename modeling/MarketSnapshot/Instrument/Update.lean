import MarketSnapshot.Instrument.State

namespace MarketSnapshot

inductive Side where
  | bidAsk
  | allLast
deriving DecidableEq

namespace Side

def name : Side → String
  | .bidAsk => "bid_ask"
  | .allLast => "all_last"

def ofText? (t : Text) : Option Side :=
  if t = Text.ofString "bid_ask" then some .bidAsk
  else if t = Text.ofString "all_last" then some .allLast
  else none

def read : Field.Reader Side
  | .text t =>
    if t.Encodable then
      match ofText? t with
      | some side => .ok side
      | none => .error .notSide
    else .error .undecodable
  | _ => .error .notSide

end Side

/-- The fields of the other side are there but have no effect. -/
structure TickUpdate where
  tickerId : Int
  side : Side
  timestamp : Int
  bidPrice : Binary64
  askPrice : Binary64
  bidSize : Int
  askSize : Int
  lastPrice : Binary64
  lastSize : Int
  pastLimit : Bool
  exchange : Text
deriving DecidableEq

namespace TickUpdate

def subject : String := "TickUpdate"

def fieldNames : List String :=
  ["ticker_id", "type", "timestamp", "bid_price", "ask_price", "bid_size", "ask_size",
    "last_price", "last_size", "past_limit", "exchange"]

def check (entries : Entries) : Field.Checked TickUpdate :=
  open MarketSnapshot.Field in
  let integer name := optional entries name readInt64 0
  let price name := optional entries name readNumber Binary64.zero
  Checked.valid TickUpdate.mk
    |>.apply (required entries "ticker_id" readInt64)
    |>.apply (required entries "type" Side.read)
    |>.apply (integer "timestamp")
    |>.apply (price "bid_price")
    |>.apply (price "ask_price")
    |>.apply (integer "bid_size")
    |>.apply (integer "ask_size")
    |>.apply (price "last_price")
    |>.apply (integer "last_size")
    |>.apply (optional entries "past_limit" readFlag false)
    |>.apply (optional entries "exchange" readEncodableText [])
    |>.also (unexpected entries fieldNames)

def read (entries : Entries) : Except Field.Rejection TickUpdate :=
  (check entries).result subject

def readNamed (fields : Table Text Value) : Except Field.Rejection TickUpdate :=
  Field.readNamed subject read fields

def entries (u : TickUpdate) : Entries :=
  [("ticker_id", .int u.tickerId), ("type", .string u.side.name), ("timestamp", .int u.timestamp),
    ("bid_price", .float u.bidPrice), ("ask_price", .float u.askPrice),
    ("bid_size", .int u.bidSize), ("ask_size", .int u.askSize),
    ("last_price", .float u.lastPrice), ("last_size", .int u.lastSize),
    ("past_limit", .bool u.pastLimit), ("exchange", .text u.exchange)]

end TickUpdate

namespace InstrumentState

/-- The state after a tick. Only the fields of the tick's side change, and the ticker id; a trade
without an exchange keeps the one that is known. -/
def merge (s : InstrumentState) (u : TickUpdate) : InstrumentState :=
  match u.side with
  | .bidAsk =>
    { s with
      tickerId := u.tickerId
      bidPrice := u.bidPrice
      askPrice := u.askPrice
      bidSize := u.bidSize
      askSize := u.askSize
      quoteTimestamp := u.timestamp
      hasQuote := true }
  | .allLast =>
    { s with
      tickerId := u.tickerId
      lastPrice := u.lastPrice
      lastSize := u.lastSize
      tradeTimestamp := u.timestamp
      pastLimit := u.pastLimit
      hasTrade := true
      exchange := if u.exchange.isEmpty then s.exchange else u.exchange }

end InstrumentState

end MarketSnapshot
