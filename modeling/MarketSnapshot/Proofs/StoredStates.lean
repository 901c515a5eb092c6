import MarketSnapshot.Proofs.LastWriter

namespace MarketSnapshot.Book

open MarketSnapshot.Field

def applied (actions : List Action) : List TickUpdate := actions.filterMap Action.tick?

theorem applied_of_mem_merged {symbol : Text} {actions : List Action} {u : TickUpdate}
    (member : u ∈ merged symbol actions) : u ∈ applied actions :=
  List.mem_filterMap.mpr ⟨.apply u, mem_of_mem_ticksAfter member, rfl⟩

theorem head_of_entriesOf {symbol : Text} {actions : List Action} {first : Registration}
    {rest : List Registration} (entries : entriesOf symbol actions = first :: rest) :
    first.Accepted ∧ first.symbol = symbol := by
  have head : (entriesOf symbol actions).head? = some first := by rw [entries]; rfl
  have accepted := List.head?_dropWhile_not (¬ ·.Accepted) (registrationsOf symbol actions)
  unfold entriesOf at head
  rw [head] at accepted
  have member : first ∈ registrationsOf symbol actions :=
    (List.dropWhile_suffix _).mem (List.mem_of_head? head)
  exact ⟨by simpa using accepted, by simpa using (List.mem_filter.mp member).2⟩

theorem merge_conId (s : InstrumentState) (conId : Value) (u : TickUpdate) :
    ({ s.merge u with conId := conId } : InstrumentState) =
      ({ s with conId := conId } : InstrumentState).merge u := by
  unfold InstrumentState.merge
  cases u.side <;> rfl

theorem lastWritten_valid {symbol : Text} {first : Registration} {rest : List Registration}
    {ticks : List TickUpdate} {n : Int} (encodable : symbol.Encodable)
    (tickerId : IsInt64 first.tickerId) (valid : ∀ u ∈ ticks, u.Valid) (conId : IsInt64 n) :
    ({ lastWritten symbol (first :: rest) ticks with conId := .int n } :
      InstrumentState).Valid := by
  induction ticks using List.reverseRecOn with
  | nil =>
    exact ⟨encodable, ⟨n, rfl, conId⟩, tickerId, isInt64_zero, isInt64_zero, isInt64_zero,
      isInt64_zero, isInt64_zero, encodable_nil⟩
  | append_singleton ticks u ih =>
    rw [lastWritten_tick, merge_conId]
    have earlier := ih fun v member => valid v (List.mem_append_left _ member)
    exact earlier.merge (valid u (by simp))

section Run

variable {actions : List Action} (valid : ∀ u ∈ applied actions, u.Valid)

include valid

theorem stored_valid {symbol : Text} (known : entriesOf symbol actions ≠ []) {n : Int}
    (conId : IsInt64 n) :
    ({ lastWritten symbol (entriesOf symbol actions) (merged symbol actions) with
      conId := .int n } : InstrumentState).Valid := by
  obtain ⟨first, rest, entries⟩ := List.exists_cons_of_ne_nil known
  obtain ⟨⟨encodable, _, tickerId⟩, rfl⟩ := head_of_entriesOf entries
  rw [entries]
  exact lastWritten_valid encodable tickerId
    (fun u member => valid u (applied_of_mem_merged member)) conId

theorem stored_valid_iff {symbol : Text} (known : entriesOf symbol actions ≠ []) :
    (lastWritten symbol (entriesOf symbol actions) (merged symbol actions)).Valid ↔
      IsInt64 (lastContract (entriesOf symbol actions)) := by
  constructor
  · intro whole
    obtain ⟨n, same, range⟩ := whole.conId
    cases same
    exact range
  · exact fun range => stored_valid valid known range

end Run

/-- Every state of a book satisfies all constraints but the one on its contract id, which is the
last one other than zero that its symbol was registered with. So it is read back from its fields
exactly if that one is in range. -/
theorem stored_states_readable_iff (actions : List Action)
    (valid : ∀ u ∈ applied actions, u.Valid) :
    (∀ symbol s, (empty.run actions).state? symbol = some s →
      s.conId = .int (lastContract (entriesOf symbol actions)) ∧
      ({ s with conId := .int 0 } : InstrumentState).Valid ∧
      (InstrumentState.read s.entries = .ok s ↔
        IsInt64 (lastContract (entriesOf symbol actions)))) ∧
    ((∀ s ∈ (empty.run actions).snapshots, InstrumentState.read s.entries = .ok s) ↔
      ∀ symbol ∈ entered actions, IsInt64 (lastContract (entriesOf symbol actions))) := by
  constructor
  · intro symbol s stored
    rw [(run_follows actions).states symbol] at stored
    split at stored
    · cases stored
    · rename_i known
      cases stored
      rw [InstrumentState.read_entries_iff]
      exact ⟨rfl, stored_valid valid known isInt64_zero, stored_valid_iff valid known⟩
  · rw [snapshots_run]
    simp only [List.forall_mem_map, InstrumentState.read_entries_iff]
    constructor
    · intro readable symbol member
      have known := (mem_entered_iff symbol actions).mp member
      exact (stored_valid_iff valid known).mp (readable symbol member)
    · intro ranges symbol member
      have known := (mem_entered_iff symbol actions).mp member
      exact (stored_valid_iff valid known).mpr (ranges symbol member)

def renewedOutOfRange : List Action :=
  [.register ⟨1, [.char 'A'], 7⟩,
    .apply ⟨1, .bidAsk, 100, Binary64.one, Binary64.one, 3, 4, Binary64.zero, 0, false, []⟩,
    .register ⟨1, [.char 'A'], 9223372036854775808⟩]

theorem stored_states_readable_iff_renewed :
    (∀ u ∈ applied renewedOutOfRange, u.Valid) ∧
      ¬ ∀ s ∈ (empty.run renewedOutOfRange).snapshots,
        InstrumentState.read s.entries = .ok s := by
  have valid : ∀ u ∈ applied renewedOutOfRange, u.Valid := by
    simp only [applied, renewedOutOfRange, Action.tick?, List.filterMap_cons, List.filterMap_nil,
      List.forall_mem_singleton]
    exact ⟨by decide, by decide, by decide, by decide, by decide, by decide⟩
  refine ⟨valid, fun readable => ?_⟩
  have ranges := (stored_states_readable_iff renewedOutOfRange valid).2.mp readable
  exact absurd (ranges [.char 'A'] (by decide)) (by decide)

theorem renewed_contract_not_readable :
    ∃ s ∈ (empty.run [.register ⟨1, [.char 'A'], 0⟩,
      .register ⟨1, [.char 'A'], 9223372036854775808⟩]).snapshots,
      s.conId = .int 9223372036854775808 ∧ InstrumentState.read s.entries ≠ .ok s := by
  refine ⟨_, List.mem_singleton.mpr rfl, rfl, fun readable => ?_⟩
  obtain ⟨n, same, range⟩ := (InstrumentState.valid_of_read readable).conId
  cases same
  exact absurd range (by decide)

theorem lastContract_range {registered : List Registration}
    (accepted : ∀ r ∈ registered, r.Accepted) : IsInt64 (lastContract registered) := by
  unfold lastContract
  cases last : ((registered.map (·.conId)).filter (· ≠ 0)).getLast? with
  | none => exact isInt64_zero
  | some n =>
    have member := (List.mem_filter.mp (List.mem_of_getLast? last)).1
    obtain ⟨r, found, rfl⟩ := List.mem_map.mp member
    exact (accepted r found).2.1

section Accepted

variable {actions : List Action} (accepted : ∀ a ∈ actions, a.Accepted)

include accepted

theorem registrations_accepted : ∀ r ∈ registrations actions, r.Accepted := by
  intro r member
  obtain ⟨a, found, same⟩ := List.mem_filterMap.mp member
  have holds := accepted a found
  cases a with
  | register other =>
    cases same
    exact holds
  | apply u => cases same

theorem applied_valid : ∀ u ∈ applied actions, u.Valid := by
  intro u member
  obtain ⟨a, found, same⟩ := List.mem_filterMap.mp member
  have holds := accepted a found
  cases a with
  | register r => cases same
  | apply other =>
    cases same
    exact holds

theorem known_of_route {tickerId : Int} {symbol : Text}
    (route : routeAfter actions tickerId = some symbol) : entriesOf symbol actions ≠ [] := by
  rw [entriesOf_of_accepted (registrations_accepted accepted)]
  exact registered_of_routeAfter route

theorem valid_of_accepted {symbol : Text} (known : entriesOf symbol actions ≠ []) :
    (lastWritten symbol (entriesOf symbol actions) (merged symbol actions)).Valid := by
  have registered := registrations_accepted accepted
  have range : IsInt64 (lastContract (entriesOf symbol actions)) := by
    apply lastContract_range
    intro r member
    rw [entriesOf_of_accepted registered] at member
    exact registered r (List.mem_filter.mp member).1
  exact (stored_valid_iff (applied_valid accepted) known).mpr range

end Accepted

def QuotedAndTraded (symbol : Text) (actions : List Action) : Prop :=
  (∃ u ∈ routed symbol actions, u.side = .bidAsk) ∧
    ∃ u ∈ routed symbol actions, u.side = .allLast

theorem QuotedAndTraded.append {symbol : Text} {actions : List Action}
    (both : QuotedAndTraded symbol actions) (rest : List Action) :
    QuotedAndTraded symbol (actions ++ rest) := by
  obtain ⟨⟨quote, quote_routed, quote_side⟩, trade, trade_routed, trade_side⟩ := both
  unfold QuotedAndTraded routed
  rw [ticksAfter_append]
  exact ⟨⟨quote, List.mem_append_left _ quote_routed, quote_side⟩,
    trade, List.mem_append_left _ trade_routed, trade_side⟩

theorem lastWritten_publishable (symbol : Text) (registered : List Registration)
    (ticks : List TickUpdate) :
    (lastWritten symbol registered ticks).isPublishable = true ↔
      (∃ u ∈ ticks, u.side = .bidAsk) ∧ ∃ u ∈ ticks, u.side = .allLast := by
  have some_left : ∀ side, (ticks.filter (·.side = side)).getLast?.isSome = true ↔
      ∃ u ∈ ticks, u.side = side := by
    intro side
    simp
  simp only [InstrumentState.isPublishable, lastWritten, Bool.and_eq_true, some_left]

theorem Follows.apply_routed {actions : List Action} {book : Book} (follows : Follows actions book)
    {u : TickUpdate} {symbol : Text} (route : routeAfter actions u.tickerId = some symbol)
    (known : entriesOf symbol actions ≠ []) :
    ∃ s, book.apply u = (book.setState symbol s, .merged s) ∧
      s = lastWritten symbol (entriesOf symbol (actions ++ [.apply u]))
        (merged symbol (actions ++ [.apply u])) := by
  have leads : book.symbolFor? (.int u.tickerId) = some (.text symbol) := by
    rw [follows.routes, route]
    rfl
  refine ⟨_, apply_known leads (follows.state_of_known known), ?_⟩
  rw [entriesOf_apply, merged_apply, if_pos ⟨route, known⟩, lastWritten_tick]

end MarketSnapshot.Book
