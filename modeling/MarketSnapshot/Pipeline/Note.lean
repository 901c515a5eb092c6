import MarketSnapshot.Instrument.Message
import MarketSnapshot.Instrument.Update
import MarketSnapshot.Journal.Severity

namespace MarketSnapshot

inductive Origin where
  | book
  | pipeline
deriving DecidableEq

namespace Origin

def name : Origin → String
  | .book => "state_aggregator"
  | .pipeline => "snapshot_pipeline"

def component : String := "app"

end Origin

structure Note where
  origin : Origin
  severity : Severity
  message : Text
  extra : Entries

namespace Note

def registered (tickerId symbol : Value) : Note where
  origin := .book
  severity := .debug
  message :=
    Text.ofString "Ticker registered: " ++ tickerId.display ++ " -> " ++ symbol.display
  extra := []

def unknownTicker (u : TickUpdate) : Note where
  origin := .book
  severity := .warning
  message := s!"Unknown tickerId: {u.tickerId}, dropping {u.side.name} update"
  extra := [("ticker_id", .int u.tickerId)]

def emitted (s : InstrumentState) (m : SnapshotMessage) : Note where
  origin := .pipeline
  severity := .debug
  message := Text.ofString "Snapshot ready: " ++ s.symbol
    ++ Text.ofString s!" | Bid: {s.bidPrice.display} | Ask: {s.askPrice.display}"
    ++ Text.ofString s!" | Last: {s.lastPrice.display}"
  extra := [("channel", .text m.channel)]

end Note

end MarketSnapshot
