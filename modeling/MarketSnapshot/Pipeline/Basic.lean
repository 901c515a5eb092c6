import MarketSnapshot.Instrument.Book
import MarketSnapshot.Pipeline.Note
import MarketSnapshot.Snapshot.Channel
import MarketSnapshot.Snapshot.Serializer

namespace MarketSnapshot

structure Counters where
  processed : Nat
  emitted : Nat
  dropped : Nat
deriving DecidableEq

structure Pipeline where
  book : Book
  serializer : Serializer
  channelPrefix : Option Text
  counters : Counters

namespace Pipeline

/-- A pipeline with an empty book. Null choices are left to the settings. -/
def new (settings : SerializerSettings) (withTime channelPrefix : Value) : Pipeline where
  book := Book.empty
  serializer := Serializer.choose settings withTime
  channelPrefix := Channel.leading settings channelPrefix
  counters := ⟨0, 0, 0⟩

inductive Failure where
  | rejected (r : Field.Rejection)
  | notKey (e : Book.NotKey)
  | noState (symbol : Value)
  | noField (name : String)
  | json (e : Json.WriteError)
  | noText

namespace Failure

def message : Failure → String
  | .rejected r => r.message
  | .notKey e => e.message
  | .noState symbol => symbol.literal
  | .noField name => "'NoneType' object has no attribute '" ++ name ++ "'"
  | .json e => e.message
  | .noText => Value.noText

def ofRegisterError : Book.RegisterError → Failure
  | .notKey e => .notKey e
  | .rejected r => .rejected r
  | .noText => .noText

end Failure

/-- The notes are for the journal and never influence later steps. -/
structure Step (α : Type) where
  pipeline : Pipeline
  outcome : Except Failure α
  notes : List Note

def register (pipeline : Pipeline) (tickerId symbol conId : Value) : Step Unit :=
  let (book, result) := pipeline.book.register tickerId symbol conId
  let pipeline := { pipeline with book := book }
  match result with
  | .error e => ⟨pipeline, .error (.ofRegisterError e), []⟩
  | .ok () => ⟨pipeline, .ok (), [Note.registered tickerId symbol]⟩

def apply (pipeline : Pipeline) (u : TickUpdate) : Step (Option InstrumentState) :=
  let (book, applied) := pipeline.book.apply u
  let pipeline := { pipeline with book := book }
  match applied with
  | .unknownTicker => ⟨pipeline, .ok none, [Note.unknownTicker u]⟩
  | .notKey e => ⟨pipeline, .error (.notKey e), []⟩
  | .noState symbol => ⟨pipeline, .error (.noState symbol), []⟩
  | .merged s => ⟨pipeline, .ok (some s), []⟩

def message (pipeline : Pipeline) (s : InstrumentState) : Except Failure SnapshotMessage :=
  match Channel.ofSymbol pipeline.channelPrefix (.text s.symbol), pipeline.serializer.write s with
  | none, _ => .error .noText
  | some _, .error e => .error (.json e)
  | some channel, .ok payload => .ok ⟨channel, s.symbol, payload⟩

def count (pipeline : Pipeline) (f : Counters → Counters) : Pipeline :=
  { pipeline with counters := f pipeline.counters }

/-- Merges a tick and gives the message for the new state, if there is one that can be
published. -/
def process (pipeline : Pipeline) (u : TickUpdate) : Step (Option SnapshotMessage) :=
  let counted := pipeline.count fun c => { c with processed := c.processed + 1 }
  match counted.apply u with
  | ⟨pipeline, .error failure, notes⟩ => ⟨pipeline, .error failure, notes⟩
  | ⟨pipeline, .ok none, notes⟩ =>
    ⟨pipeline.count fun c => { c with dropped := c.dropped + 1 }, .ok none, notes⟩
  | ⟨pipeline, .ok (some s), notes⟩ =>
    if s.isPublishable then
      match pipeline.message s with
      | .error failure => ⟨pipeline, .error failure, notes⟩
      | .ok m =>
        ⟨pipeline.count fun c => { c with emitted := c.emitted + 1 }, .ok (some m),
          notes ++ [Note.emitted s m]⟩
    else
      ⟨pipeline, .ok none, notes⟩

def symbolFor (pipeline : Pipeline) (tickerId : Value) : Except Failure (Option Value) :=
  (pipeline.book.lookupSymbol tickerId).mapError .notKey

def state (pipeline : Pipeline) (symbol : Value) : Except Failure (Option InstrumentState) :=
  (pipeline.book.lookup symbol).mapError .notKey

def isPublishable (pipeline : Pipeline) (symbol : Value) : Except Failure Bool :=
  match pipeline.state symbol with
  | .error failure => .error failure
  | .ok none => .error (.noField "has_quote")
  | .ok (some s) => .ok s.isPublishable

def text (pipeline : Pipeline) (symbol : Value) : Except Failure String :=
  match pipeline.state symbol with
  | .error failure => .error failure
  | .ok none => .error (.noField "symbol")
  | .ok (some s) => (pipeline.serializer.write s).mapError .json

end Pipeline

end MarketSnapshot
