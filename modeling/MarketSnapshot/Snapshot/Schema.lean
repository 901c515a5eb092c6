import MarketSnapshot.Instrument.State
import MarketSnapshot.Snapshot.Document

namespace MarketSnapshot.Snapshot

structure Content where
  symbol : Value
  conId : Value
  tickerId : Value
  timestamp : Value
  bidPrice : Value
  askPrice : Value
  lastPrice : Value
  bidSize : Value
  askSize : Value
  lastSize : Value
  quoteTimestamp : Value
  tradeTimestamp : Value
  hasQuote : Value
  hasTrade : Value
  exchange : Value
  pastLimit : Value

def content (s : InstrumentState) : Content where
  symbol := .text s.symbol
  conId := s.conId
  tickerId := .int s.tickerId
  timestamp := .int s.latestTimestamp
  bidPrice := .float s.bidPrice
  askPrice := .float s.askPrice
  lastPrice := .float s.lastPrice
  bidSize := .int s.bidSize
  askSize := .int s.askSize
  lastSize := .int s.lastSize
  quoteTimestamp := .int s.quoteTimestamp
  tradeTimestamp := .int s.tradeTimestamp
  hasQuote := .bool s.hasQuote
  hasTrade := .bool s.hasTrade
  exchange := .text s.exchange
  pastLimit := .bool s.pastLimit

def version : Nat := 1

def schema : Schema Content :=
  [(["instrument"], Content.symbol),
    (["conId"], Content.conId),
    (["tickerId"], Content.tickerId),
    (["timestamp"], Content.timestamp),
    (["price", "bid"], Content.bidPrice),
    (["price", "ask"], Content.askPrice),
    (["price", "last"], Content.lastPrice),
    (["size", "bid"], Content.bidSize),
    (["size", "ask"], Content.askSize),
    (["size", "last"], Content.lastSize),
    (["timestamps", "quote"], Content.quoteTimestamp),
    (["timestamps", "trade"], Content.tradeTimestamp),
    (["hasQuote"], Content.hasQuote),
    (["hasTrade"], Content.hasTrade),
    (["exchange"], Content.exchange),
    (["tickAttrib", "pastLimit"], Content.pastLimit)]

def dotted (path : List String) : String := ".".intercalate path

end MarketSnapshot.Snapshot
