import MarketSnapshot.Instrument.Update
import MarketSnapshot.Value.Display
import MarketSnapshot.Value.Order

namespace MarketSnapshot

structure Book where
  /-- What ticker ids were registered for, the latest first. -/
  routes : List (Value × Value)
  states : Table Text InstrumentState

namespace Book

def empty : Book := ⟨[], []⟩

def symbolFor? (book : Book) (tickerId : Value) : Option Value :=
  (book.routes.find? fun route => route.1.agrees tickerId).map Prod.snd

def state? (book : Book) (symbol : Text) : Option InstrumentState := Table.find? book.states symbol

def snapshots (book : Book) : List InstrumentState := Table.values book.states

structure NotKey where
  kind : String
deriving DecidableEq

def NotKey.message (e : NotKey) : String := "unhashable type: '" ++ e.kind ++ "'"

def checkKey : Value → Except NotKey Unit
  | .list items => .error ⟨(Value.list items).kind⟩
  | .dict entries => .error ⟨(Value.dict entries).kind⟩
  | _ => .ok ()

def lookup (book : Book) (symbol : Value) : Except NotKey (Option InstrumentState) :=
  match symbol with
  | .text t => .ok (book.state? t)
  | v => (checkKey v).map fun _ => none

def lookupSymbol (book : Book) (tickerId : Value) : Except NotKey (Option Value) :=
  (checkKey tickerId).map fun _ => book.symbolFor? tickerId

def route (book : Book) (tickerId symbol : Value) : Book :=
  { book with routes := (tickerId, symbol) :: book.routes }

def setState (book : Book) (symbol : Text) (s : InstrumentState) : Book :=
  { book with states := Table.put book.states symbol s }

theorem symbolFor?_route (book : Book) (tickerId other : Int) (symbol : Value) :
    (book.route (.int tickerId) symbol).symbolFor? (.int other) =
      if tickerId = other then some symbol else book.symbolFor? (.int other) := by
  by_cases same : tickerId = other <;> simp [route, symbolFor?, same]

@[simp] theorem state?_route (book : Book) (tickerId symbol : Value) (t : Text) :
    (book.route tickerId symbol).state? t = book.state? t := rfl

@[simp] theorem symbolFor?_setState (book : Book) (t : Text) (s : InstrumentState) (id : Value) :
    (book.setState t s).symbolFor? id = book.symbolFor? id := rfl

theorem state?_setState (book : Book) (t other : Text) (s : InstrumentState) :
    (book.setState t s).state? other = if t = other then some s else book.state? other := by
  by_cases same : t = other
  · subst same
    simp [setState, state?]
  · simp [setState, state?, same, Table.find?_put_of_ne]

def firstState (symbol conId tickerId : Value) : Except Field.Rejection InstrumentState :=
  InstrumentState.read [("symbol", symbol), ("con_id", conId), ("ticker_id", tickerId)]

/-- The state once its symbol is registered again. A contract id that counts as true replaces a
different one, and is not checked. -/
def renew (s : InstrumentState) (conId : Value) : InstrumentState :=
  if conId.isTrue && !s.conId.agrees conId then { s with conId := conId } else s

inductive RegisterError where
  | notKey (e : NotKey)
  | rejected (r : Field.Rejection)
  | noText

def enter (book : Book) (symbol : Text) (tickerId conId : Value) :
    Book × Except Field.Rejection Unit :=
  match book.state? symbol with
  | none =>
    match firstState (.text symbol) conId tickerId with
    | .error rejection => (book, .error rejection)
    | .ok s => (book.setState symbol s, .ok ())
  | some s => (book.setState symbol (renew s conId), .ok ())

def refuse (symbol tickerId conId : Value) : Except RegisterError Unit :=
  match checkKey symbol with
  | .error e => .error (.notKey e)
  | .ok () =>
    match firstState symbol conId tickerId with
    | .error rejection => .error (.rejected rejection)
    | .ok _ => .ok ()

/-- Lets a ticker id stand for a symbol, even if the symbol is then rejected. A ticker id without a
text fails last, when everything is done. -/
def register (book : Book) (tickerId symbol conId : Value) : Book × Except RegisterError Unit :=
  match checkKey tickerId with
  | .error e => (book, .error (.notKey e))
  | .ok () =>
    let routed := book.route tickerId symbol
    match symbol with
    | .text t =>
      match routed.enter t tickerId conId with
      | (entered, .error rejection) => (entered, .error (.rejected rejection))
      | (entered, .ok ()) => (entered, if tickerId.hasText then .ok () else .error .noText)
    | v => (routed, refuse v tickerId conId)

inductive Applied where
  | unknownTicker
  | notKey (e : NotKey)
  | noState (symbol : Value)
  | merged (s : InstrumentState)

/-- Merges a tick into the state of its symbol. A ticker id that stands for null is not known. -/
def apply (book : Book) (u : TickUpdate) : Book × Applied :=
  match book.symbolFor? (.int u.tickerId) with
  | none | some .null => (book, .unknownTicker)
  | some (.text symbol) =>
    match book.state? symbol with
    | none => (book, .noState (.text symbol))
    | some s => (book.setState symbol (s.merge u), .merged (s.merge u))
  | some v =>
    match checkKey v with
    | .error e => (book, .notKey e)
    | .ok () => (book, .noState v)

end Book

end MarketSnapshot
