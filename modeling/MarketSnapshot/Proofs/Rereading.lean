import MarketSnapshot.Proofs.LastWriter

namespace MarketSnapshot

def InstrumentState.ReadsBack (s : InstrumentState) : Prop :=
  ∀ given : Entries, given.Perm s.entries → read given = .ok s

def TickUpdate.ReadsBack (u : TickUpdate) : Prop :=
  ∀ given : Entries, given.Perm u.entries → read given = .ok u

theorem InstrumentState.readsBack_iff (s : InstrumentState) : s.ReadsBack ↔ s.Valid :=
  ⟨fun back => valid_of_read (back s.entries (.refl _)), fun valid _ => read_arranged valid⟩

theorem TickUpdate.readsBack_iff (u : TickUpdate) : u.ReadsBack ↔ u.Valid :=
  ⟨fun back => valid_of_read (back u.entries (.refl _)), fun valid _ => read_arranged valid⟩

namespace Book

theorem snapshots_apply {book : Book} {u : TickUpdate} {s : InstrumentState}
    (member : s ∈ (book.apply u).1.snapshots) :
    s ∈ book.snapshots ∨ ∃ t ∈ book.snapshots, s = t.merge u := by
  rcases book.apply_cases u with ⟨same, _⟩ | ⟨symbol, t, _, known, applied⟩
  · rw [same] at member
    exact .inl member
  · rw [applied] at member
    rcases Table.mem_values_put member with rfl | member
    · exact .inr ⟨t, List.mem_map.mpr ⟨_, Table.mem_of_find? known, rfl⟩, rfl⟩
    · exact .inl member

theorem apply_readsBack {book : Book} {u : TickUpdate} (states : ∀ s ∈ book.snapshots, s.ReadsBack)
    (tick : u.Valid) : ∀ s ∈ (book.apply u).1.snapshots, s.ReadsBack := by
  intro s member
  rcases snapshots_apply member with member | ⟨t, stored, rfl⟩
  · exact states s member
  · rw [InstrumentState.readsBack_iff]
    exact ((InstrumentState.readsBack_iff t).mp (states t stored)).merge tick

theorem run_readsBack {book : Book} {ticks : List TickUpdate}
    (states : ∀ s ∈ book.snapshots, s.ReadsBack) (valid : ∀ u ∈ ticks, u.Valid) :
    ∀ s ∈ (book.run (ticks.map .apply)).snapshots, s.ReadsBack := by
  induction ticks generalizing book with
  | nil => exact states
  | cons u ticks ih =>
    exact ih (apply_readsBack states (valid u (by simp)))
      fun other member => valid other (List.mem_cons_of_mem u member)

/-- Reading is settled after one time: an accepted state or tick is read again as itself. Every book
whose states are read again as themselves has only such states after a tick that was accepted,
whether or not the tick changes one, and so after any number of them. -/
theorem reading_settles :
    (∀ given s, InstrumentState.read given = .ok s → s.ReadsBack) ∧
      (∀ given u, TickUpdate.read given = .ok u → u.ReadsBack) ∧
      (∀ (book : Book) given u, (∀ s ∈ book.snapshots, s.ReadsBack) →
        TickUpdate.read given = .ok u → ∀ s ∈ (book.apply u).1.snapshots, s.ReadsBack) ∧
      ∀ (book : Book) (ticks : List TickUpdate), (∀ s ∈ book.snapshots, s.ReadsBack) →
        (∀ u ∈ ticks, ∃ given, TickUpdate.read given = .ok u) →
        ∀ s ∈ (book.run (ticks.map .apply)).snapshots, s.ReadsBack := by
  refine ⟨?_, ?_, ?_, ?_⟩
  · intro given s accepted
    exact s.readsBack_iff.mpr (InstrumentState.valid_of_read accepted)
  · intro given u accepted
    exact u.readsBack_iff.mpr (TickUpdate.valid_of_read accepted)
  · intro book given u states accepted
    exact apply_readsBack states (TickUpdate.valid_of_read accepted)
  · intro book ticks states accepted
    refine run_readsBack states fun u member => ?_
    obtain ⟨given, read⟩ := accepted u member
    exact TickUpdate.valid_of_read read

def givenState : Entries :=
  [("has_quote", .string "Yes"), ("bid_price", .string "-0"), ("ask_price", .string "nan"),
    ("bid_size", .float Binary64.one), ("quote_timestamp", .bool true), ("symbol", .string "AAPL")]

def givenTick : Entries :=
  [("type", .string "all_last"), ("ticker_id", .string "9"), ("last_price", .bool true)]

def holdingOnly (s : InstrumentState) : Book :=
  ⟨[(.int 9, .string "AAPL")], [(Text.ofString "AAPL", s)]⟩

theorem reading_settles_signed_zero :
    ∃ s u, InstrumentState.read givenState = .ok s ∧ TickUpdate.read givenTick = .ok u ∧
      s.bidPrice = Binary64.pack true 0 0 ∧ s.askPrice = .nan ∧
      InstrumentState.read s.entries.reverse = .ok s ∧
      TickUpdate.read u.entries.reverse = .ok u ∧
      ((holdingOnly s).apply u).1.snapshots = [s.merge u] ∧
      InstrumentState.read (s.merge u).entries.reverse = .ok (s.merge u) := by
  have prices : (InstrumentState.read givenState).toOption.map
      (fun s => (s.bidPrice, s.askPrice)) = some (Binary64.pack true 0 0, .nan) := by
    decide +kernel
  have ticker : (TickUpdate.read givenTick).toOption.map (·.tickerId) = some 9 := by
    decide +kernel
  obtain ⟨states, ticks, merges, _⟩ := reading_settles
  cases read : InstrumentState.read givenState with
  | error rejection =>
    rw [read] at prices
    cases prices
  | ok s =>
    cases read_tick : TickUpdate.read givenTick with
    | error rejection =>
      rw [read_tick] at ticker
      cases ticker
    | ok u =>
      rw [read] at prices
      rw [read_tick] at ticker
      obtain ⟨bid, ask⟩ := Prod.mk.inj (Option.some.inj prices)
      have nine : u.tickerId = 9 := Option.some.inj ticker
      have back := states givenState s read
      have applied : ((holdingOnly s).apply u).1.snapshots = [s.merge u] := by
        unfold Book.apply
        rw [nine]
        rfl
      have kept := merges (holdingOnly s) givenTick u
        (fun t member => List.mem_singleton.mp member ▸ back) read_tick
      rw [applied] at kept
      exact ⟨s, u, rfl, rfl, bid, ask, back _ (List.reverse_perm _),
        ticks givenTick u read_tick _ (List.reverse_perm _), applied,
        kept _ (List.mem_singleton_self _) _ (List.reverse_perm _)⟩

end Book

end MarketSnapshot
