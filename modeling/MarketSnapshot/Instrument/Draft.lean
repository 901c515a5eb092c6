import MarketSnapshot.Instrument.Message
import MarketSnapshot.Instrument.Update
import MarketSnapshot.Snapshot.Serializer
import MarketSnapshot.Value.Access

namespace MarketSnapshot

inductive RecordKind where
  | state
  | update
  | message
deriving DecidableEq

namespace RecordKind

def subject : RecordKind → String
  | .state => InstrumentState.subject
  | .update => TickUpdate.subject
  | .message => SnapshotMessage.subject

def fieldNames : RecordKind → List String
  | .state => InstrumentState.fieldNames
  | .update => TickUpdate.fieldNames
  | .message => SnapshotMessage.fieldNames

end RecordKind

/-- A record that is no longer checked. Some names are those of parts that a record uses itself, and
a value under such a name stands in for the part. -/
structure Draft where
  kind : RecordKind
  entries : Entries
  /-- Answers for names that are not entries, unless it is null or empty. -/
  spare : Value
  /-- Answers for concealed names. -/
  concealed : Value
  /-- What stands in for the set of names given so far. -/
  given : Option Value

namespace Draft

inductive Part where
  | copier
  | duplicator
  | settings
  | declaration
  | setters
  | setter
  | concealedNames
  | family
deriving DecidableEq

def Part.name : Part → String
  | .copier => "model_copy"
  | .duplicator => "__copy__"
  | .settings => "model_config"
  | .declaration => "__pydantic_fields__"
  | .setters => "__pydantic_setattr_handlers__"
  | .setter => "_setattr_handler"
  | .concealedNames => "__private_attributes__"
  | .family => "__pydantic_generic_metadata__"

inductive Error where
  | missing (subject name : String)
  | access (e : Value.AccessError)
  | unordered (e : Value.Unordered)
  | json (e : Json.WriteError)
  | rejected (r : Field.Rejection)
  | nameNotText (kind : String)
  | notClass (kind : String)
  | notTable (kind : String)
  | readOnly (name : String)
  | noSetter (subject name : String)
  | notPair (position length : Nat)

namespace Error

def commonSubject : String := "BaseIOModelDTO"

def message : Error → String
  | .missing subject name => "'" ++ subject ++ "' object has no attribute '" ++ name ++ "'"
  | .access e => e.message
  | .unordered e => e.message
  | .json e => e.message
  | .rejected r => r.message
  | .nameNotText kind => "attribute name must be string, not '" ++ kind ++ "'"
  | .notClass kind => "__class__ must be set to a class, not '" ++ kind ++ "' object"
  | .notTable kind => "__dict__ must be set to a dictionary, not a '" ++ kind ++ "'"
  | .readOnly name => "attribute '" ++ name ++ "' of '" ++ commonSubject
      ++ "' objects is not writable"
  | .noSetter subject name => "property '" ++ name ++ "' of '" ++ subject
      ++ "' object has no setter"
  | .notPair position length => "dictionary update sequence element #" ++ toString position
      ++ " has length " ++ toString length ++ "; 2 is required"

def ofAccess (missing : Error) : Value.AccessError → Error
  | .missingKey _ => missing
  | e => .access e

end Error

def ofEntries (kind : RecordKind) (entries : Entries) : Draft := ⟨kind, entries, .null, .null, none⟩

def read (kind : RecordKind) (entries : Entries) : Except Field.Rejection Draft :=
  let checked :=
    match kind with
    | .state => (InstrumentState.read entries).map InstrumentState.entries
    | .update => (TickUpdate.read entries).map TickUpdate.entries
    | .message => (SnapshotMessage.read entries).map SnapshotMessage.entries
  checked.map (ofEntries kind)

def readNamed (kind : RecordKind) (fields : Table Text Value) : Except Field.Rejection Draft :=
  Field.readNamed kind.subject (read kind) fields

def standIn? (draft : Draft) (part : Part) : Option Value := Table.find? draft.entries part.name

def missing (draft : Draft) (name : String) : Error := .missing draft.kind.subject name

def conceals (draft : Draft) (name : String) : Except Value.AccessError Bool :=
  match draft.standIn? .concealedNames with
  | none => .ok false
  | some names => do
    if ← names.has name then
      let _ ← names.item name
      return true
    return false

def holdsSpare (draft : Draft) (name : String) : Except Value.AccessError Bool :=
  if draft.spare.isTrue then draft.spare.has name else .ok false

/-- The answer for a name that is no entry: what is concealed under it or spare, else the failure
that made the record resort to these. -/
def resort (draft : Draft) (name : String) (failure : Error) : Except Error Value := do
  let missing := draft.missing name
  if ← (draft.conceals name).mapError .access then
    (draft.concealed.item name).mapError missing.ofAccess
  else if ← (draft.holdsSpare name).mapError .access then
    (draft.spare.item name).mapError missing.ofAccess
  else .error failure

def ask (draft : Draft) (name : String) : Except Error Value :=
  match Table.find? draft.entries name with
  | some v => .ok v
  | none => draft.resort name (draft.missing name)

def shown (draft : Draft) : Except Error Entries :=
  draft.kind.fieldNames.mapM fun name => (draft.ask name).map fun v => (name, v)

def newerTimestamp (draft : Draft) : Except Error Value := do
  let quote ← draft.ask "quote_timestamp"
  let trade ← draft.ask "trade_timestamp"
  let newer ← (trade.exceeds quote).mapError .unordered
  return if newer then trade else quote

/-- Only a state works its time out, and if a part of it is missing the name is resorted to; for
other records it is a name like any other. -/
def latestTimestamp (draft : Draft) : Except Error Value :=
  match draft.kind with
  | .state =>
    match draft.newerTimestamp with
    | .error (.missing subject name) => draft.resort "latest_timestamp" (.missing subject name)
    | outcome => outcome
  | _ => draft.ask "latest_timestamp"

def content (draft : Draft) : Except Error Snapshot.Content := do
  let symbol ← draft.ask "symbol"
  let conId ← draft.ask "con_id"
  let tickerId ← draft.ask "ticker_id"
  let timestamp ← draft.latestTimestamp
  let bidPrice ← draft.ask "bid_price"
  let askPrice ← draft.ask "ask_price"
  let lastPrice ← draft.ask "last_price"
  let bidSize ← draft.ask "bid_size"
  let askSize ← draft.ask "ask_size"
  let lastSize ← draft.ask "last_size"
  let quoteTimestamp ← draft.ask "quote_timestamp"
  let tradeTimestamp ← draft.ask "trade_timestamp"
  let hasQuote ← draft.ask "has_quote"
  let hasTrade ← draft.ask "has_trade"
  let exchange ← draft.ask "exchange"
  let pastLimit ← draft.ask "past_limit"
  return {
    symbol, conId, tickerId, timestamp, bidPrice, askPrice, lastPrice, bidSize, askSize, lastSize,
    quoteTimestamp, tradeTimestamp, hasQuote, hasTrade, exchange, pastLimit }

def write (draft : Draft) : Except Error String := do
  let content ← draft.content
  (Serializer.writeBranch (Snapshot.schema.build content)).mapError .json

end Draft

end MarketSnapshot
