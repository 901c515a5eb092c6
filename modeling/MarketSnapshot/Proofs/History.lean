import Mathlib.Data.List.Induction
import Mathlib.Data.List.TakeWhile
import MarketSnapshot.Instrument.Book
import MarketSnapshot.Proofs.Constraints

namespace MarketSnapshot.Book

open MarketSnapshot.Field

structure Registration where
  tickerId : Int
  symbol : Text
  conId : Int
deriving DecidableEq

/-- A registration that can give a new symbol its first state. -/
def Registration.Accepted (r : Registration) : Prop :=
  r.symbol.Encodable ∧ IsInt64 r.conId ∧ IsInt64 r.tickerId

instance (r : Registration) : Decidable r.Accepted := inferInstanceAs (Decidable (_ ∧ _ ∧ _))

inductive Action where
  | register (r : Registration)
  | apply (u : TickUpdate)

namespace Action

def Accepted : Action → Prop
  | .register r => r.Accepted
  | .apply u => u.Valid

instance (a : Action) : Decidable a.Accepted :=
  match a with
  | .register r => inferInstanceAs (Decidable r.Accepted)
  | .apply u => inferInstanceAs (Decidable u.Valid)

def registration? : Action → Option Registration
  | .register r => some r
  | .apply _ => none

def tick? : Action → Option TickUpdate
  | .register _ => none
  | .apply u => some u

end Action

def act (book : Book) : Action → Book
  | .register r => (book.register (.int r.tickerId) (.text r.symbol) (.int r.conId)).1
  | .apply u => (book.apply u).1

def run (book : Book) (actions : List Action) : Book := actions.foldl act book

@[simp] theorem run_nil (book : Book) : book.run [] = book := rfl

theorem run_induction {book : Book} {invariant : List Action → Book → Prop}
    (start : invariant [] book)
    (step : ∀ past current a, invariant past current → invariant (past ++ [a]) (current.act a))
    (actions : List Action) : invariant actions (book.run actions) := by
  have extended : ∀ rest past current, invariant past current →
      invariant (past ++ rest) (current.run rest) := by
    intro rest
    induction rest with
    | nil =>
      intro past current holds
      simpa using holds
    | cons a rest ih =>
      intro past current holds
      have next := ih (past ++ [a]) (current.act a) (step past current a holds)
      simpa [run] using next
  simpa using extended actions [] book start

def registrations (actions : List Action) : List Registration :=
  actions.filterMap Action.registration?

def routeAfter (actions : List Action) (tickerId : Int) : Option Text :=
  ((registrations actions).filter (·.tickerId = tickerId)).getLast?.map (·.symbol)

def registrationsOf (symbol : Text) (actions : List Action) : List Registration :=
  (registrations actions).filter (·.symbol = symbol)

/-- The registrations of a symbol from the first accepted one on. Those before it leave no state. -/
def entriesOf (symbol : Text) (actions : List Action) : List Registration :=
  (registrationsOf symbol actions).dropWhile (¬ ·.Accepted)

def entered (actions : List Action) : List Text :=
  (((registrations actions).filter (·.Accepted)).map (·.symbol)).eraseDups

def ticksAfter (selects : List Action → TickUpdate → Bool) (past : List Action) :
    List Action → List TickUpdate
  | [] => []
  | a :: rest => (a.tick?.filter (selects past)).toList ++ ticksAfter selects (past ++ [a]) rest

def routed (symbol : Text) (actions : List Action) : List TickUpdate :=
  ticksAfter (fun past u => routeAfter past u.tickerId = some symbol) [] actions

/-- The ticks whose ticker id stood for a symbol that had a state when they came. -/
def merged (symbol : Text) (actions : List Action) : List TickUpdate :=
  ticksAfter (fun past u => routeAfter past u.tickerId = some symbol ∧ entriesOf symbol past ≠ [])
    [] actions

def lastContract (registered : List Registration) : Int :=
  ((registered.map (·.conId)).filter (· ≠ 0)).getLast?.getD 0

/-- The state of a symbol as the last write to each of its fields tells it. -/
def lastWritten (symbol : Text) (registered : List Registration) (ticks : List TickUpdate) :
    InstrumentState :=
  let quotes := ticks.filter (·.side = .bidAsk)
  let trades := ticks.filter (·.side = .allLast)
  let quote := quotes.getLast?
  let trade := trades.getLast?
  { symbol
    conId := .int (lastContract registered)
    tickerId := ticks.getLast?.elim (registered.head?.elim 0 (·.tickerId)) (·.tickerId)
    bidPrice := quote.elim Binary64.zero (·.bidPrice)
    askPrice := quote.elim Binary64.zero (·.askPrice)
    bidSize := quote.elim 0 (·.bidSize)
    askSize := quote.elim 0 (·.askSize)
    quoteTimestamp := quote.elim 0 (·.timestamp)
    hasQuote := quote.isSome
    lastPrice := trade.elim Binary64.zero (·.lastPrice)
    lastSize := trade.elim 0 (·.lastSize)
    tradeTimestamp := trade.elim 0 (·.timestamp)
    hasTrade := trade.isSome
    exchange := (trades.filter (·.exchange ≠ [])).getLast?.elim [] (·.exchange)
    pastLimit := trade.elim false (·.pastLimit) }

theorem ticksAfter_append (selects : List Action → TickUpdate → Bool)
    (past actions rest : List Action) :
    ticksAfter selects past (actions ++ rest) =
      ticksAfter selects past actions ++ ticksAfter selects (past ++ actions) rest := by
  induction actions generalizing past with
  | nil => simp [ticksAfter]
  | cons a actions ih => simp [ticksAfter, ih]

theorem ticksAfter_apply (selects : List Action → TickUpdate → Bool) (past : List Action)
    (u : TickUpdate) :
    ticksAfter selects [] (past ++ [.apply u]) =
      ticksAfter selects [] past ++ if selects past u then [u] else [] := by
  rw [ticksAfter_append]
  by_cases selected : selects past u <;>
    simp [ticksAfter, Action.tick?, Option.filter, selected]

theorem ticksAfter_register (selects : List Action → TickUpdate → Bool) (past : List Action)
    (r : Registration) :
    ticksAfter selects [] (past ++ [.register r]) = ticksAfter selects [] past := by
  rw [ticksAfter_append]
  simp [ticksAfter, Action.tick?]

theorem ticksAfter_congr {first second : List Action → TickUpdate → Bool}
    (past actions : List Action)
    (agree : ∀ before u rest, actions = before ++ .apply u :: rest →
      first (past ++ before) u = second (past ++ before) u) :
    ticksAfter first past actions = ticksAfter second past actions := by
  induction actions generalizing past with
  | nil => rfl
  | cons a actions ih =>
    have later := ih (past ++ [a]) (by
      intro before u rest split
      simpa using agree (a :: before) u rest (by simp [split]))
    cases a with
    | register r => simpa [ticksAfter, Action.tick?] using later
    | apply u =>
      have now := agree [] u actions rfl
      simp only [List.append_nil] at now
      simp [ticksAfter, Action.tick?, Option.filter, now, later]

theorem mem_of_mem_ticksAfter {selects : List Action → TickUpdate → Bool}
    {past actions : List Action} {u : TickUpdate} (member : u ∈ ticksAfter selects past actions) :
    .apply u ∈ actions := by
  induction actions generalizing past with
  | nil => simp [ticksAfter] at member
  | cons a actions ih =>
    simp only [ticksAfter, List.mem_append] at member
    rcases member with member | member
    · cases a <;> simp_all [Action.tick?, Option.filter]
    · exact List.mem_cons_of_mem _ (ih member)

theorem routeAfter_register (past : List Action) (r : Registration) (tickerId : Int) :
    routeAfter (past ++ [.register r]) tickerId =
      if r.tickerId = tickerId then some r.symbol else routeAfter past tickerId := by
  by_cases same : r.tickerId = tickerId <;>
    simp [routeAfter, registrations, Action.registration?, same]

theorem registrationsOf_register (symbol : Text) (past : List Action) (r : Registration) :
    registrationsOf symbol (past ++ [.register r]) =
      registrationsOf symbol past ++ if r.symbol = symbol then [r] else [] := by
  by_cases same : r.symbol = symbol <;>
    simp [registrationsOf, registrations, Action.registration?, same]

theorem registrations_apply (past : List Action) (u : TickUpdate) :
    registrations (past ++ [.apply u]) = registrations past := by
  simp [registrations, Action.registration?]

theorem entriesOf_register (symbol : Text) (past : List Action) (r : Registration) :
    entriesOf symbol (past ++ [.register r]) =
      entriesOf symbol past ++
        if r.symbol = symbol ∧ (entriesOf symbol past ≠ [] ∨ r.Accepted) then [r] else [] := by
  unfold entriesOf
  rw [registrationsOf_register, List.dropWhile_append]
  generalize (registrationsOf symbol past).dropWhile (¬ ·.Accepted) = earlier
  by_cases same : r.symbol = symbol
  · cases earlier with
    | nil => by_cases accepted : r.Accepted <;> simp [same, accepted]
    | cons first rest => simp [same]
  · cases earlier <;> simp [same]

theorem entriesOf_apply (symbol : Text) (past : List Action) (u : TickUpdate) :
    entriesOf symbol (past ++ [.apply u]) = entriesOf symbol past := by
  simp only [entriesOf, registrationsOf, registrations_apply]

theorem mem_entered_iff (symbol : Text) (actions : List Action) :
    symbol ∈ entered actions ↔ entriesOf symbol actions ≠ [] := by
  simp only [entered, entriesOf, registrationsOf, ne_eq, List.dropWhile_eq_nil_iff,
    List.mem_eraseDups, List.mem_map, List.mem_filter]
  grind

theorem merged_register (symbol : Text) (past : List Action) (r : Registration) :
    merged symbol (past ++ [.register r]) = merged symbol past :=
  ticksAfter_register _ past r

theorem merged_apply (symbol : Text) (past : List Action) (u : TickUpdate) :
    merged symbol (past ++ [.apply u]) = merged symbol past ++
      if routeAfter past u.tickerId = some symbol ∧ entriesOf symbol past ≠ [] then [u]
      else [] := by
  unfold merged
  rw [ticksAfter_apply]
  simp only [decide_eq_true_eq]

theorem merged_of_unknown {symbol : Text} {actions : List Action}
    (unknown : entriesOf symbol actions = []) : merged symbol actions = [] := by
  induction actions using List.reverseRecOn with
  | nil => rfl
  | append_singleton past a ih =>
    cases a with
    | register r =>
      rw [entriesOf_register] at unknown
      rw [merged_register]
      exact ih (List.append_eq_nil_iff.mp unknown).1
    | apply u =>
      rw [entriesOf_apply] at unknown
      rw [merged_apply, ih unknown]
      simp [unknown]

theorem registered_of_routeAfter {actions : List Action} {tickerId : Int} {symbol : Text}
    (route : routeAfter actions tickerId = some symbol) : registrationsOf symbol actions ≠ [] := by
  obtain ⟨r, last, rfl⟩ := Option.map_eq_some_iff.mp route
  have member := (List.mem_filter.mp (List.mem_of_getLast? last)).1
  have found : r ∈ registrationsOf r.symbol actions := List.mem_filter.mpr ⟨member, by simp⟩
  exact List.ne_nil_of_mem found

section Accepted

variable {actions : List Action} (accepted : ∀ r ∈ registrations actions, r.Accepted)

include accepted

theorem entriesOf_of_accepted (symbol : Text) :
    entriesOf symbol actions = registrationsOf symbol actions := by
  unfold entriesOf
  cases found : registrationsOf symbol actions with
  | nil => rfl
  | cons first rest =>
    have member : first ∈ registrationsOf symbol actions := by simp [found]
    have first_accepted := accepted first (List.mem_filter.mp member).1
    simp [first_accepted]

theorem entered_of_accepted :
    entered actions = ((registrations actions).map (·.symbol)).eraseDups := by
  unfold entered
  rw [List.filter_eq_self.mpr (by simpa using accepted)]

theorem merged_of_accepted (symbol : Text) : merged symbol actions = routed symbol actions := by
  apply ticksAfter_congr
  intro before u rest split
  have earlier : ∀ r ∈ registrations before, r.Accepted := by
    intro r member
    apply accepted
    rw [split]
    simp only [registrations, List.filterMap_append, List.mem_append]
    exact .inl member
  simp only [List.nil_append, decide_eq_decide, and_iff_left_iff_imp]
  intro route
  rw [entriesOf_of_accepted earlier]
  exact registered_of_routeAfter route

end Accepted

theorem lastContract_snoc (registered : List Registration) (r : Registration) :
    lastContract (registered ++ [r]) =
      if r.conId = 0 then lastContract registered else r.conId := by
  by_cases zero : r.conId = 0 <;> simp [lastContract, zero]

theorem lastWritten_first (r : Registration) :
    lastWritten r.symbol [r] [] = InstrumentState.initial r.symbol r.conId r.tickerId := by
  by_cases zero : r.conId = 0 <;> simp [lastWritten, lastContract, InstrumentState.initial, zero]

theorem renew_int {s : InstrumentState} {held : Int} (same : s.conId = .int held) (conId : Int) :
    renew s (.int conId) = { s with conId := .int (if conId = 0 then held else conId) } := by
  unfold renew
  rw [same, Value.agrees_int]
  by_cases zero : conId = 0
  · simp [zero, Value.isTrue, ← same]
  · by_cases equal : held = conId
    · subst equal
      simp only [beq_self_eq_true, Bool.not_true, Bool.and_false, Bool.false_eq_true, if_false,
        zero, ← same]
    · simp [zero, equal, Value.isTrue]

theorem lastWritten_register (symbol : Text) {registered : List Registration} (r : Registration)
    (ticks : List TickUpdate) (known : registered ≠ []) :
    lastWritten symbol (registered ++ [r]) ticks =
      renew (lastWritten symbol registered ticks) (.int r.conId) := by
  obtain ⟨first, rest, rfl⟩ := List.exists_cons_of_ne_nil known
  have held : (lastWritten symbol (first :: rest) ticks).conId =
      .int (lastContract (first :: rest)) := rfl
  rw [renew_int held]
  simp [lastWritten, ← lastContract_snoc]

theorem lastWritten_tick (symbol : Text) (registered : List Registration) (ticks : List TickUpdate)
    (u : TickUpdate) :
    lastWritten symbol registered (ticks ++ [u]) =
      (lastWritten symbol registered ticks).merge u := by
  cases side : u.side with
  | bidAsk => simp [lastWritten, InstrumentState.merge, side]
  | allLast =>
    by_cases silent : u.exchange = [] <;>
      simp [lastWritten, InstrumentState.merge, side, silent]

end MarketSnapshot.Book
