import MarketSnapshot.Proofs.Publishing

namespace MarketSnapshot.Pipeline

def Call.isProcess : Call → Bool
  | .process _ => true
  | _ => false

def isUnknown (pipeline : Pipeline) (u : TickUpdate) : Bool :=
  match pipeline.symbolFor (.int u.tickerId) with
  | .ok none | .ok (some .null) => true
  | _ => false

def emits (pipeline : Pipeline) (u : TickUpdate) : Bool :=
  match (pipeline.process u).outcome with
  | .ok (some _) => true
  | _ => false

def holdsBack (pipeline : Pipeline) (u : TickUpdate) : Bool :=
  match (pipeline.book.apply u).2 with
  | .merged s => !s.isPublishable
  | _ => false

def fails (pipeline : Pipeline) (u : TickUpdate) : Bool :=
  match (pipeline.process u).outcome with
  | .error _ => true
  | _ => false

/-- The ticks that a run processes, each with the pipeline as it stood just before. -/
def processed (start : Pipeline) : List Call → List (Pipeline × TickUpdate)
  | [] => []
  | .process u :: rest => (start, u) :: (start.perform (.process u)).processed rest
  | call :: rest => (start.perform call).processed rest

theorem isUnknown_eq (pipeline : Pipeline) (u : TickUpdate) :
    pipeline.isUnknown u = match (pipeline.book.apply u).2 with
      | .unknownTicker => true
      | _ => false := by
  have symbol : pipeline.symbolFor (.int u.tickerId) =
      .ok (pipeline.book.symbolFor? (.int u.tickerId)) := rfl
  unfold isUnknown Book.apply
  rw [symbol]
  cases pipeline.book.symbolFor? (.int u.tickerId) with
  | none => rfl
  | some v =>
    cases v with
    | null => rfl
    | text t =>
      dsimp only
      cases pipeline.book.state? t <;> rfl
    | _ => rfl

theorem one_fate (pipeline : Pipeline) (u : TickUpdate) :
    (pipeline.emits u).toNat + (pipeline.isUnknown u).toNat + (pipeline.holdsBack u).toNat +
      (pipeline.fails u).toNat = 1 := by
  unfold emits holdsBack fails
  rw [isUnknown_eq, process_outcome]
  cases (pipeline.book.apply u).2 with
  | unknownTicker => rfl
  | notKey e => rfl
  | noState symbol => rfl
  | merged s =>
    by_cases publishable : s.isPublishable = true
    · cases written : pipeline.message s <;>
        simp [verdict, publishable, written, Except.map]
    · simp [verdict, publishable]

theorem counters_process (pipeline : Pipeline) (u : TickUpdate) :
    (pipeline.process u).pipeline.counters =
      ⟨pipeline.counters.processed + 1,
        pipeline.counters.emitted + (pipeline.emits u).toNat,
        pipeline.counters.dropped + (pipeline.isUnknown u).toNat⟩ := by
  rw [process_pipeline, isUnknown_eq]
  unfold counted emits
  dsimp only
  congr 2
  · rcases (pipeline.process u).outcome with _ | _ | _ <;> rfl
  · cases (pipeline.book.apply u).2 <;> rfl

theorem counters_perform (pipeline : Pipeline) {call : Call} (other : call.isProcess = false) :
    (pipeline.perform call).counters = pipeline.counters := by
  cases call with
  | register tickerId symbol conId => rw [perform, book_register]
  | apply u => rw [perform, book_apply]
  | process u => cases other

theorem toNat_eq_ite (b : Bool) : b.toNat = if b = true then 1 else 0 := by cases b <;> rfl

theorem processed_of_other (start : Pipeline) {call : Call} (other : call.isProcess = false)
    (rest : List Call) : start.processed (call :: rest) = (start.perform call).processed rest := by
  cases call with
  | register => rfl
  | apply => rfl
  | process => cases other

theorem length_processed (start : Pipeline) (calls : List Call) :
    (start.processed calls).length = calls.countP Call.isProcess := by
  induction calls generalizing start with
  | nil => rfl
  | cons call rest ih =>
    rw [List.countP_cons]
    cases kind : call.isProcess with
    | false =>
      rw [processed_of_other start kind, ih]
      rfl
    | true =>
      cases call with
      | process u => rw [processed, List.length_cons, ih, if_pos rfl]
      | _ => cases kind

theorem counters_run (start : Pipeline) (calls : List Call) :
    (start.run calls).counters =
      ⟨start.counters.processed + (start.processed calls).length,
        start.counters.emitted + (start.processed calls).countP fun tick => tick.1.emits tick.2,
        start.counters.dropped +
          (start.processed calls).countP fun tick => tick.1.isUnknown tick.2⟩ := by
  induction calls generalizing start with
  | nil => rfl
  | cons call rest ih =>
    refine (ih (start.perform call)).trans ?_
    cases kind : call.isProcess with
    | false => rw [processed_of_other start kind, counters_perform start kind]
    | true =>
      cases call with
      | process u =>
        have step : (start.perform (.process u)).counters = _ := counters_process start u
        rw [step, processed, List.length_cons, List.countP_cons, List.countP_cons]
        simp only [toNat_eq_ite, Counters.mk.injEq]
        exact ⟨by omega, by omega, by omega⟩
      | _ => cases kind

theorem countP_fates (ticks : List (Pipeline × TickUpdate)) :
    (ticks.countP fun tick => tick.1.emits tick.2) +
        (ticks.countP fun tick => tick.1.isUnknown tick.2) +
        (ticks.countP fun tick => tick.1.holdsBack tick.2) +
        (ticks.countP fun tick => tick.1.fails tick.2) = ticks.length := by
  induction ticks with
  | nil => rfl
  | cons tick rest ih =>
    have fate := one_fate tick.1 tick.2
    simp only [toNat_eq_ite] at fate
    simp only [List.countP_cons, List.length_cons]
    omega

/-- A pipeline that has counted nothing yet has after every run counted its processed ticks, those
of them that gave a message, and those whose ticker id stood for no symbol just before. The others
were merged into a state that cannot be published, or failed. Only processing counts. -/
theorem counters_tell_fates (start : Pipeline) (fresh : start.counters = ⟨0, 0, 0⟩)
    (calls : List Call) :
    let counters := (start.run calls).counters
    let ticks := start.processed calls
    counters.processed = calls.countP Call.isProcess ∧
    counters.emitted = (ticks.countP fun tick => tick.1.emits tick.2) ∧
    counters.dropped = (ticks.countP fun tick => tick.1.isUnknown tick.2) ∧
    counters.emitted + counters.dropped ≤ counters.processed ∧
    counters.processed - (counters.emitted + counters.dropped) =
      (ticks.countP fun tick => tick.1.holdsBack tick.2) +
        (ticks.countP fun tick => tick.1.fails tick.2) ∧
    ∀ (pipeline : Pipeline) (call : Call), call.isProcess = false →
      (pipeline.perform call).counters = pipeline.counters := by
  have run := counters_run start calls
  have fates := countP_fates (start.processed calls)
  rw [fresh] at run
  simp only [Nat.zero_add] at run
  dsimp only
  rw [run]
  dsimp only
  refine ⟨length_processed start calls, rfl, rfl, by omega, by omega, ?_⟩
  exact fun pipeline call other => counters_perform pipeline other

def fourFates : List Call :=
  let tick (tickerId : Int) (side : Side) : TickUpdate :=
    ⟨tickerId, side, 100, Binary64.one, Binary64.one, 3, 4, Binary64.one, 5, false, []⟩
  [.register (.int 1) (.text [.char 'A']) (.int 7), .process (tick 1 .bidAsk),
    .process (tick 1 .allLast), .process (tick 9 .bidAsk), .apply (tick 1 .allLast),
    .register (.int 2) (.text [.char 'B']) (.int 9223372036854775808), .process (tick 2 .bidAsk)]

theorem counters_tell_four_fates :
    let start := new ⟨[.char 'P'], false⟩ .null .null
    let counters := (start.run fourFates).counters
    let ticks := start.processed fourFates
    counters.processed = 4 ∧ counters.emitted = 1 ∧ counters.dropped = 1 ∧
      (ticks.countP fun tick => tick.1.holdsBack tick.2) = 1 ∧
      (ticks.countP fun tick => tick.1.fails tick.2) = 1 := by
  intro start counters ticks
  obtain ⟨all, emitted, dropped, _⟩ := counters_tell_fates start rfl fourFates
  have emitted_once : (ticks.countP fun tick => tick.1.emits tick.2) = 1 := by decide +kernel
  have dropped_once : (ticks.countP fun tick => tick.1.isUnknown tick.2) = 1 := by decide +kernel
  exact ⟨all, emitted.trans emitted_once, dropped.trans dropped_once, by decide +kernel,
    by decide +kernel⟩

end MarketSnapshot.Pipeline
