import MarketSnapshot.Proofs.RecordDelivery

namespace MarketSnapshot

structure Registry.Alike (left right : Registry) (id : LoggerId) : Prop where
  level : left.effectiveLevel id = right.effectiveLevel id
  sinks : left.sinks id = right.sinks id

namespace Journal

namespace Step

def isCall : Step → Bool
  | .request _ _ => false
  | _ => true

def Through (loggers : List LoggerId) (among : LoggerId → Prop) : Step → Prop
  | .request _ _ => False
  | .log i _ _ _ _ => ∀ id, loggers[i]? = some id → among id
  | _ => True

theorem Through.isCall {loggers : List LoggerId} {among : LoggerId → Prop} {step : Step}
    (through : step.Through loggers among) : step.isCall = true := by
  cases step with
  | request => exact through.elim
  | _ => rfl

theorem not_request {step : Step} (call : step.isCall = true) :
    ∀ today arguments, step ≠ .request today arguments := by
  rintro today arguments rfl
  cases call

end Step

def outcome (journal : Journal) : Step → Except LogError Unit
  | .log i severity message arguments around =>
    match journal.handles[i]? with
    | none => .ok ()
    | some handle => (journal.log handle severity message arguments around).2
  | .setContext i more => (journal.setContext i more).map fun _ => ()
  | _ => .ok ()

def outcomes (settings : LoggingSettings) (journal : Journal) :
    List Step → List (Except LogError Unit)
  | [] => []
  | step :: rest => journal.outcome step :: outcomes settings (perform settings journal step) rest

def resume (settings : LoggingSettings) (journal : Journal) (steps : List Step) : Journal :=
  steps.foldl (perform settings) journal

section Calls

variable (settings : LoggingSettings) {later : List Step}

theorem perform_call (journal : Journal) {step : Step} (call : step.isCall = true) :
    (perform settings journal step).registry = journal.registry ∧
      (perform settings journal step).passes = journal.passes ∧
      (perform settings journal step).loggers = journal.loggers :=
  perform_keeps settings journal (Step.not_request call) LogHandle.logger fun _ _ => rfl

theorem resume_call (journal : Journal) (calls : ∀ step ∈ later, step.isCall = true) :
    (resume settings journal later).registry = journal.registry ∧
      (resume settings journal later).passes = journal.passes ∧
      (resume settings journal later).loggers = journal.loggers := by
  induction later generalizing journal with
  | nil => exact ⟨rfl, rfl, rfl⟩
  | cons step rest ih =>
    obtain ⟨call, calls⟩ := List.forall_mem_cons.mp calls
    obtain ⟨registry, passes, loggers⟩ := ih (perform settings journal step) calls
    obtain ⟨registry_now, passes_now, loggers_now⟩ := perform_call settings journal call
    exact ⟨registry.trans registry_now, passes.trans passes_now, loggers.trans loggers_now⟩

theorem perform_log_handles (journal : Journal) (i : Nat) (severity : Severity) (message : Value)
    (arguments : Entries) (around : Surroundings) :
    (perform settings journal (.log i severity message arguments around)).handles =
      journal.handles := by
  unfold perform
  dsimp only
  split
  · rfl
  · rename_i handle _
    obtain ⟨_, _, _, added⟩ := adds_log journal handle severity message arguments around
    exact added.handles

theorem perform_handles {left right : Journal} (same : left.handles = right.handles) {step : Step}
    (call : step.isCall = true) :
    (perform settings left step).handles = (perform settings right step).handles := by
  cases step with
  | request => cases call
  | log i severity message arguments around =>
    rw [perform_log_handles, perform_log_handles, same]
  | setContext i more =>
    unfold perform setContext
    dsimp only
    split
    · exact same
    · exact congrArg (List.modify · i _) same
  | clearContext i => exact congrArg (List.modify · i _) same

theorem resume_handles {left right : Journal} (same : left.handles = right.handles)
    (calls : ∀ step ∈ later, step.isCall = true) :
    (resume settings left later).handles = (resume settings right later).handles := by
  induction later generalizing left right with
  | nil => exact same
  | cons step rest ih =>
    obtain ⟨call, calls⟩ := List.forall_mem_cons.mp calls
    exact ih (perform_handles settings same call) calls

end Calls

/-- The same handles, deliveries and strays, and some loggers with the same sinks at which the same
passes. -/
structure Matched (among : LoggerId → Prop) (left right : Journal) : Prop where
  handles : left.handles = right.handles
  deliveries : left.deliveries = right.deliveries
  strays : left.strays = right.strays
  passes : ∀ id, among id → left.passes id = right.passes id
  sinks : ∀ id, among id → left.registry.sinks id = right.registry.sinks id

section Matched

variable {settings : LoggingSettings} {among : LoggerId → Prop} {left right : Journal}
  (matched : Matched among left right)

include matched

theorem Matched.emit {id : LoggerId} (member : among id) (record : LogRecord)
    (rotates : Nat → Option Int) :
    (left.emit id record rotates).2 = (right.emit id record rotates).2 ∧
      (left.emit id record rotates).1.deliveries = (right.emit id record rotates).1.deliveries ∧
      (left.emit id record rotates).1.strays = (right.emit id record rotates).1.strays := by
  unfold Journal.emit
  rw [matched.passes id member]
  split
  · split
    · exact ⟨rfl, matched.deliveries, matched.strays⟩
    · unfold deliver remember
      dsimp only
      rw [matched.deliveries, matched.strays, matched.sinks id member]
      exact ⟨rfl, rfl, rfl⟩
  · exact ⟨rfl, matched.deliveries, matched.strays⟩

theorem Matched.log {i : Nat} {severity : Severity} {message : Value} {arguments : Entries}
    {around : Surroundings}
    (through : (Step.log i severity message arguments around).Through left.loggers among) :
    let step := Step.log i severity message arguments around
    left.outcome step = right.outcome step ∧
      (perform settings left step).deliveries = (perform settings right step).deliveries ∧
      (perform settings left step).strays = (perform settings right step).strays := by
  intro step
  simp only [step, outcome, perform, ← matched.handles]
  cases made : left.handles[i]? with
  | none => exact ⟨rfl, matched.deliveries, matched.strays⟩
  | some handle =>
    have called : among handle.logger := through handle.logger (by simp [loggers, made])
    dsimp only
    unfold Journal.log
    split
    · exact ⟨rfl, matched.deliveries, matched.strays⟩
    · exact matched.emit called _ _

theorem Matched.perform {step : Step} (through : step.Through left.loggers among) :
    left.outcome step = right.outcome step ∧
      Matched among (perform settings left step) (perform settings right step) := by
  have call := through.isCall
  have handles := perform_handles settings matched.handles call
  obtain ⟨registry_left, passes_left, _⟩ := perform_call settings left call
  obtain ⟨registry_right, passes_right, _⟩ := perform_call settings right call
  have passes : ∀ id, among id → (Journal.perform settings left step).passes id =
      (Journal.perform settings right step).passes id := by
    rw [passes_left, passes_right]
    exact matched.passes
  have sinks : ∀ id, among id → (Journal.perform settings left step).registry.sinks id =
      (Journal.perform settings right step).registry.sinks id := by
    rw [registry_left, registry_right]
    exact matched.sinks
  cases step with
  | request => cases call
  | log i severity message arguments around =>
    obtain ⟨outcome, deliveries, strays⟩ := matched.log through
    exact ⟨outcome, handles, deliveries, strays, passes, sinks⟩
  | setContext i more =>
    refine ⟨?_, handles, ?_, ?_, passes, sinks⟩
    · unfold outcome setContext
      dsimp only
      split <;> rfl
    · unfold Journal.perform setContext
      dsimp only
      split <;> exact matched.deliveries
    · unfold Journal.perform setContext
      dsimp only
      split <;> exact matched.strays
  | clearContext i =>
    exact ⟨rfl, handles, matched.deliveries, matched.strays, passes, sinks⟩

theorem Matched.resume {later : List Step}
    (through : ∀ step ∈ later, step.Through left.loggers among) :
    outcomes settings left later = outcomes settings right later ∧
      Matched among (resume settings left later) (resume settings right later) := by
  induction later generalizing left right with
  | nil => exact ⟨rfl, matched⟩
  | cons step rest ih =>
    obtain ⟨now, through⟩ := List.forall_mem_cons.mp through
    obtain ⟨outcome, next⟩ := matched.perform now
    have loggers := (perform_call settings left now.isCall).2.2
    obtain ⟨outcomes, final⟩ := ih next (loggers ▸ through)
    exact ⟨by simp only [Journal.outcomes, outcome, outcomes], final⟩

theorem Matched.passedOn (takes : Nat → LogHandle → Bool) :
    left.passedOn takes = right.passedOn takes := by
  unfold Journal.passedOn
  rw [matched.handles, matched.deliveries]

theorem Matched.console (i : Nat) : left.console i = right.console i := by
  unfold Journal.console
  rw [matched.passedOn]

theorem Matched.file (place : Place) : left.file place = right.file place := by
  unfold Journal.file rolled
  rw [matched.passedOn, matched.handles]

end Matched

end Journal

end MarketSnapshot
