import Mathlib.Data.List.Basic
import MarketSnapshot.Proofs.History

namespace MarketSnapshot

theorem Table.values_eq_filterMap {κ : Type} {α : Type} [DecidableEq κ] {table : Table κ α}
    (distinct : (Table.keys table).Nodup) :
    Table.values table = (Table.keys table).filterMap (Table.find? table) := by
  induction table with
  | nil => rfl
  | cons entry rest ih =>
    obtain ⟨fresh, distinct⟩ := List.nodup_cons.mp distinct
    have later : ∀ key ∈ Table.keys rest,
        Table.find? (entry :: rest) key = Table.find? rest key := by
      intro key member
      have other : entry.1 ≠ key := by
        rintro rfl
        exact fresh member
      simp [Table.find?, other]
    have now : Table.find? (entry :: rest) entry.1 = some entry.2 := by simp [Table.find?]
    change entry.2 :: Table.values rest =
      (entry.1 :: Table.keys rest).filterMap (Table.find? (entry :: rest))
    rw [List.filterMap_cons_some now, List.filterMap_congr later, ih distinct]

namespace Book

open MarketSnapshot.Field

theorem firstState_eq_ok_iff (r : Registration) (s : InstrumentState) :
    firstState (.text r.symbol) (.int r.conId) (.int r.tickerId) = .ok s ↔
      r.Accepted ∧ InstrumentState.initial r.symbol r.conId r.tickerId = s := by
  simp only [firstState, InstrumentState.read, InstrumentState.check, Checked.result_eq_ok_iff,
    Checked.also_eq_valid_iff, Checked.apply_eq_valid_iff]
  simp only [↓existsAndEq, Checked.valid.injEq, required, Field.optional, Table.find?,
    String.reduceEq, ↓reduceIte, ofReader_eq_valid_iff, readEncodableText_text, readInt64_int,
    and_assoc, exists_and_left, exists_eq_left', true_and]
  simp [unexpected, InstrumentState.fieldNames, InstrumentState.initial, Registration.Accepted,
    and_assoc]

def routedTo (book : Book) (r : Registration) : Book :=
  book.route (.int r.tickerId) (.text r.symbol)

def Registration.told (r : Registration) : Except RegisterError Unit :=
  if (Value.int r.tickerId).hasText then .ok () else .error .noText

theorem register_known {book : Book} {r : Registration} {s : InstrumentState}
    (known : book.state? r.symbol = some s) :
    book.register (.int r.tickerId) (.text r.symbol) (.int r.conId) =
      ((book.routedTo r).setState r.symbol (renew s (.int r.conId)), r.told) := by
  simp [register, checkKey, enter, known, routedTo, Registration.told]

theorem hasText_of_isInt64 {n : Int} (range : IsInt64 n) : (Value.int n).hasText = true := by
  rw [Value.hasText_int_iff]
  have small : n.natAbs < 10000000000000000000 := by
    unfold IsInt64 integerMinimum integerMaximum at range
    omega
  have below (count : Nat) (digits : 19 ≤ count) : n.natAbs < Nat.pow 10 count :=
    small.trans_le (Nat.pow_le_pow_right (Nat.zero_lt_succ 9) digits)
  exact below _ (by decide)

theorem register_new {book : Book} {r : Registration} (new : book.state? r.symbol = none)
    (accepted : r.Accepted) :
    book.register (.int r.tickerId) (.text r.symbol) (.int r.conId) =
      ((book.routedTo r).setState r.symbol
        (InstrumentState.initial r.symbol r.conId r.tickerId), .ok ()) := by
  have first := (firstState_eq_ok_iff r _).mpr ⟨accepted, rfl⟩
  have text := hasText_of_isInt64 accepted.2.2
  simp [register, checkKey, enter, new, first, routedTo, text]

theorem register_refused {r : Registration} (refused : ¬ r.Accepted) :
    ∃ rejection, ∀ book : Book, book.state? r.symbol = none →
      book.register (.int r.tickerId) (.text r.symbol) (.int r.conId) =
        (book.routedTo r, .error (.rejected rejection)) := by
  cases first : firstState (.text r.symbol) (.int r.conId) (.int r.tickerId) with
  | ok s => exact absurd ((firstState_eq_ok_iff r s).mp first).1 refused
  | error rejection =>
    refine ⟨rejection, fun book new => ?_⟩
    simp [register, checkKey, enter, new, first, routedTo]

@[simp] theorem state?_routedTo (book : Book) (r : Registration) (symbol : Text) :
    (book.routedTo r).state? symbol = book.state? symbol := rfl

theorem symbolFor?_routedTo (book : Book) (r : Registration) (tickerId : Int) :
    (book.routedTo r).symbolFor? (.int tickerId) =
      if r.tickerId = tickerId then some (.text r.symbol) else book.symbolFor? (.int tickerId) :=
  symbolFor?_route book r.tickerId tickerId (.text r.symbol)

theorem apply_unknown {book : Book} {u : TickUpdate}
    (unknown : book.symbolFor? (.int u.tickerId) = none) :
    book.apply u = (book, .unknownTicker) := by
  simp [apply, unknown]

theorem apply_lost {book : Book} {u : TickUpdate} {symbol : Text}
    (route : book.symbolFor? (.int u.tickerId) = some (.text symbol))
    (new : book.state? symbol = none) : book.apply u = (book, .noState (.text symbol)) := by
  simp [apply, route, new]

theorem apply_known {book : Book} {u : TickUpdate} {symbol : Text} {s : InstrumentState}
    (route : book.symbolFor? (.int u.tickerId) = some (.text symbol))
    (known : book.state? symbol = some s) :
    book.apply u = (book.setState symbol (s.merge u), .merged (s.merge u)) := by
  simp [apply, route, known]

theorem apply_cases (book : Book) (u : TickUpdate) :
    (book.apply u).1 = book ∧ (∀ s, (book.apply u).2 ≠ .merged s) ∨
      ∃ symbol s, book.symbolFor? (.int u.tickerId) = some (.text symbol) ∧
        book.state? symbol = some s ∧
        book.apply u = (book.setState symbol (s.merge u), .merged (s.merge u)) := by
  unfold apply
  split
  · exact .inl ⟨rfl, fun _ => Applied.noConfusion⟩
  · exact .inl ⟨rfl, fun _ => Applied.noConfusion⟩
  · rename_i symbol route
    cases known : book.state? symbol with
    | none => exact .inl ⟨rfl, fun _ => Applied.noConfusion⟩
    | some s => exact .inr ⟨symbol, s, route, known, rfl⟩
  · split <;> exact .inl ⟨rfl, fun _ => Applied.noConfusion⟩

/-- What holds of a book with a history. -/
structure Follows (past : List Action) (book : Book) : Prop where
  routes : ∀ tickerId : Int,
    book.symbolFor? (.int tickerId) = (routeAfter past tickerId).map Value.text
  states : ∀ symbol, book.state? symbol =
    if entriesOf symbol past = [] then none
    else some (lastWritten symbol (entriesOf symbol past) (merged symbol past))
  order : Table.keys book.states = entered past

theorem follows_empty : Follows [] empty where
  routes _ := rfl
  states _ := rfl
  order := rfl

theorem eraseDups_snoc (symbols : List Text) (symbol : Text) :
    (symbols ++ [symbol]).eraseDups =
      if symbol ∈ symbols.eraseDups then symbols.eraseDups else symbols.eraseDups ++ [symbol] := by
  rw [List.eraseDups_append]
  by_cases known : symbol ∈ symbols <;> simp [List.removeAll, known, List.eraseDups_cons]

theorem entered_register (past : List Action) (r : Registration) :
    entered (past ++ [.register r]) =
      if r.Accepted ∧ r.symbol ∉ entered past then entered past ++ [r.symbol]
      else entered past := by
  by_cases accepted : r.Accepted
  · have last : entered (past ++ [.register r]) =
        ((((registrations past).filter (·.Accepted)).map (·.symbol)) ++ [r.symbol]).eraseDups := by
      simp [entered, registrations, Action.registration?, accepted]
    rw [last, eraseDups_snoc]
    change (if r.symbol ∈ entered past then entered past else entered past ++ [r.symbol]) = _
    by_cases known : r.symbol ∈ entered past <;> simp [accepted, known]
  · simp [entered, registrations, Action.registration?, accepted]

theorem entered_apply (past : List Action) (u : TickUpdate) :
    entered (past ++ [.apply u]) = entered past := by
  unfold entered
  rw [registrations_apply]

namespace Follows

variable {past : List Action} {book : Book}

theorem state_of_unknown (follows : Follows past book) {symbol : Text}
    (unknown : entriesOf symbol past = []) : book.state? symbol = none := by
  rw [follows.states symbol, if_pos unknown]

theorem state_of_known (follows : Follows past book) {symbol : Text}
    (known : entriesOf symbol past ≠ []) :
    book.state? symbol =
      some (lastWritten symbol (entriesOf symbol past) (merged symbol past)) := by
  rw [follows.states symbol, if_neg known]

theorem enter (follows : Follows past book) {r : Registration}
    (entered : entriesOf r.symbol past ≠ [] ∨ r.Accepted) :
    Follows (past ++ [.register r]) ((book.routedTo r).setState r.symbol
      (lastWritten r.symbol (entriesOf r.symbol past ++ [r]) (merged r.symbol past))) where
  routes tickerId := by
    rw [symbolFor?_setState, symbolFor?_routedTo, routeAfter_register, follows.routes]
    split <;> rfl
  states symbol := by
    rw [state?_setState, entriesOf_register, merged_register]
    by_cases same : r.symbol = symbol
    · subst same
      simp [entered]
    · simp only [same, if_false, false_and, List.append_nil]
      exact follows.states symbol
  order := by
    have kept : Table.keys (book.routedTo r).states = Book.entered past := follows.order
    change Table.keys (Table.put (book.routedTo r).states r.symbol _) = _
    rw [Table.keys_put, kept, entered_register]
    by_cases known : r.symbol ∈ Book.entered past
    · simp [known]
    · have accepted : r.Accepted :=
        entered.resolve_left fun old => known ((mem_entered_iff r.symbol past).mpr old)
      simp [known, accepted]

theorem refuse (follows : Follows past book) {r : Registration}
    (unknown : entriesOf r.symbol past = []) (refused : ¬ r.Accepted) :
    Follows (past ++ [.register r]) (book.routedTo r) where
  routes tickerId := by
    rw [symbolFor?_routedTo, routeAfter_register, follows.routes]
    split <;> rfl
  states symbol := by
    rw [entriesOf_register, merged_register]
    by_cases same : r.symbol = symbol
    · subst same
      simpa [unknown, refused] using follows.state_of_unknown unknown
    · simpa [same] using follows.states symbol
  order := by
    have kept : Table.keys (book.routedTo r).states = entered past := follows.order
    rw [kept, entered_register]
    simp [refused]

theorem register (follows : Follows past book) (r : Registration) :
    Follows (past ++ [.register r]) (book.act (.register r)) := by
  unfold act
  by_cases unknown : entriesOf r.symbol past = []
  · have new := follows.state_of_unknown unknown
    by_cases accepted : r.Accepted
    · simp only [register_new new accepted]
      have first := follows.enter (.inr accepted)
      rwa [unknown, merged_of_unknown unknown, List.nil_append, lastWritten_first] at first
    · obtain ⟨e, outcome⟩ := register_refused accepted
      simp only [outcome book new]
      exact follows.refuse unknown accepted
  · simp only [register_known (follows.state_of_known unknown)]
    rw [← lastWritten_register r.symbol r (merged r.symbol past) unknown]
    exact follows.enter (.inl unknown)

theorem merge (follows : Follows past book) {u : TickUpdate} {symbol : Text}
    (route : routeAfter past u.tickerId = some symbol) (known : entriesOf symbol past ≠ []) :
    Follows (past ++ [.apply u]) (book.setState symbol
      ((lastWritten symbol (entriesOf symbol past) (merged symbol past)).merge u)) where
  routes tickerId := by
    rw [symbolFor?_setState, follows.routes]
    simp only [routeAfter, registrations_apply]
  states other := by
    rw [state?_setState, entriesOf_apply, merged_apply, route]
    by_cases same : symbol = other
    · subst same
      simp [known, lastWritten_tick]
    · simpa [same] using follows.states other
  order := by
    change Table.keys (Table.put book.states symbol _) = _
    rw [Table.keys_put, follows.order, entered_apply]
    simp [(mem_entered_iff symbol past).mpr known]

theorem drop (follows : Follows past book) {u : TickUpdate}
    (lost : ∀ symbol, routeAfter past u.tickerId = some symbol → entriesOf symbol past = []) :
    Follows (past ++ [.apply u]) book where
  routes tickerId := by
    rw [follows.routes]
    simp only [routeAfter, registrations_apply]
  states symbol := by
    have ignored : merged symbol (past ++ [.apply u]) = merged symbol past := by
      rw [merged_apply]
      grind
    rw [entriesOf_apply, ignored]
    exact follows.states symbol
  order := by rw [entered_apply, follows.order]

theorem apply (follows : Follows past book) (u : TickUpdate) :
    Follows (past ++ [.apply u]) (book.act (.apply u)) := by
  unfold act
  cases route : routeAfter past u.tickerId with
  | none =>
    have unknown : book.symbolFor? (.int u.tickerId) = none := by rw [follows.routes, route]; rfl
    simp only [apply_unknown unknown]
    exact follows.drop (by simp [route])
  | some symbol =>
    have leads : book.symbolFor? (.int u.tickerId) = some (.text symbol) := by
      rw [follows.routes, route]; rfl
    by_cases known : entriesOf symbol past = []
    · simp only [apply_lost leads (follows.state_of_unknown known)]
      exact follows.drop (by simpa [route] using known)
    · simp only [apply_known leads (follows.state_of_known known)]
      exact follows.merge route known

end Follows

/-- The book follows every history, whatever is refused or dropped on the way. -/
theorem run_follows (actions : List Action) : Follows actions (empty.run actions) := by
  apply run_induction follows_empty
  intro past current a follows
  cases a with
  | register r => exact follows.register r
  | apply u => exact follows.apply u

theorem nodup_entered (actions : List Action) : (entered actions).Nodup := by
  induction actions using List.reverseRecOn with
  | nil => exact List.nodup_nil
  | append_singleton past a ih =>
    cases a with
    | register r =>
      rw [entered_register]
      split
      · rename_i new
        exact List.nodup_append.mpr ⟨ih, by simp, by grind⟩
      · exact ih
    | apply u => rwa [entered_apply]

theorem snapshots_run (actions : List Action) :
    (empty.run actions).snapshots = (entered actions).map fun symbol =>
      lastWritten symbol (entriesOf symbol actions) (merged symbol actions) := by
  have follows := run_follows actions
  have distinct : (Table.keys (empty.run actions).states).Nodup := by
    rw [follows.order]
    exact nodup_entered actions
  unfold snapshots
  rw [Table.values_eq_filterMap distinct, follows.order, ← List.filterMap_eq_map]
  apply List.filterMap_congr
  intro symbol member
  exact follows.state_of_known ((mem_entered_iff symbol actions).mp member)

/-- A book holds the last write of its history to each field of each state: a symbol has a state
once it was registered, and the states stand in the order of the first registrations. -/
theorem run_holds_last_writes (actions : List Action)
    (accepted : ∀ r ∈ registrations actions, r.Accepted) :
    (∀ symbol, (empty.run actions).state? symbol =
      if registrationsOf symbol actions = [] then none
      else some (lastWritten symbol (registrationsOf symbol actions) (routed symbol actions))) ∧
    (empty.run actions).snapshots =
      ((registrations actions).map (·.symbol)).eraseDups.map fun symbol =>
        lastWritten symbol (registrationsOf symbol actions) (routed symbol actions) := by
  constructor
  · intro symbol
    rw [(run_follows actions).states symbol, entriesOf_of_accepted accepted,
      merged_of_accepted accepted]
  · simp only [snapshots_run, entered_of_accepted accepted, entriesOf_of_accepted accepted,
      merged_of_accepted accepted]

def movedTicker : List Action :=
  let quote (tickerId : Int) : TickUpdate :=
    ⟨tickerId, .bidAsk, 100, Binary64.one, Binary64.one, 3, 4, Binary64.zero, 0, false, []⟩
  let trade (tickerId : Int) (exchange : Text) : TickUpdate :=
    ⟨tickerId, .allLast, 90, Binary64.zero, Binary64.zero, 0, 0, Binary64.one, 5, true, exchange⟩
  [.register ⟨1, [.char 'A'], 7⟩, .register ⟨2, [.char 'B'], 0⟩, .apply (quote 1),
    .register ⟨1, [.char 'B'], 9⟩, .apply (trade 2 [.char 'N']), .apply (trade 1 []),
    .register ⟨3, [.char 'A'], 0⟩, .apply (quote 3)]

theorem run_holds_last_writes_moved_ticker :
    (∀ r ∈ registrations movedTicker, r.Accepted) ∧
    (∀ symbol, (empty.run movedTicker).state? symbol =
      if registrationsOf symbol movedTicker = [] then none
      else some (lastWritten symbol (registrationsOf symbol movedTicker)
        (routed symbol movedTicker))) ∧
    (empty.run movedTicker).snapshots =
      ((registrations movedTicker).map (·.symbol)).eraseDups.map fun symbol =>
        lastWritten symbol (registrationsOf symbol movedTicker) (routed symbol movedTicker) :=
  have accepted : ∀ r ∈ registrations movedTicker, r.Accepted := by decide
  ⟨accepted, run_holds_last_writes movedTicker accepted⟩

end Book

end MarketSnapshot
