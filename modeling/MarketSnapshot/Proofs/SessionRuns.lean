import MarketSnapshot.Pipeline.Session
import MarketSnapshot.Proofs.SettingsSources
import MarketSnapshot.Proofs.Thresholds

namespace MarketSnapshot

def Note.arguments (note : Note) : Entries :=
  if note.extra.isEmpty then [] else [("extra", .dict note.extra)]

def Pipeline.Step.map {α β : Type} (f : α → β) (step : Pipeline.Step α) : Pipeline.Step β :=
  ⟨step.pipeline, step.outcome.map f, step.notes⟩

namespace Session

inductive Fault where
  | failed (failure : Pipeline.Failure)
  | refused (e : LogError)

def handleOf : Origin → Nat
  | .book => 0
  | .pipeline => 1

def around (clock : Clock) (journal : Journal) : Surroundings :=
  ⟨[], [], clock journal.deliveries.length⟩

section Clock

variable (clock : Clock)

def tell (journal : Journal) (note : Note) : Journal × Except LogError Unit :=
  match journal.handles[handleOf note.origin]? with
  | none => (journal, .ok ())
  | some handle =>
    journal.log handle note.severity (.text note.message) note.arguments (around clock journal)

def telling {α : Type} (session : Session) (note : Note) (a : α) : Session × Except Fault α :=
  match tell clock session.journal note with
  | (journal, .error e) => (⟨session.pipeline, journal⟩, .error (.refused e))
  | (journal, .ok ()) => (⟨session.pipeline, journal⟩, .ok a)

def withBook (session : Session) (book : Book) : Session :=
  ⟨{ session.pipeline with book := book }, session.journal⟩

def count (session : Session) (f : Counters → Counters) : Session :=
  ⟨session.pipeline.count f, session.journal⟩

def register (session : Session) (tickerId symbol conId : Value) : Session × Except Fault Unit :=
  match session.pipeline.book.register tickerId symbol conId with
  | (book, .error e) => (session.withBook book, .error (.failed (.ofRegisterError e)))
  | (book, .ok ()) => (session.withBook book).telling clock (Note.registered tickerId symbol) ()

def apply (session : Session) (u : TickUpdate) : Session × Except Fault (Option InstrumentState) :=
  match session.pipeline.book.apply u with
  | (book, .unknownTicker) => (session.withBook book).telling clock (Note.unknownTicker u) none
  | (book, .notKey e) => (session.withBook book, .error (.failed (.notKey e)))
  | (book, .noState symbol) => (session.withBook book, .error (.failed (.noState symbol)))
  | (book, .merged s) => (session.withBook book, .ok (some s))

/-- A tick is counted as dropped or as emitted only if the work before went well, and the note of a
message is told after it was counted. -/
def process (session : Session) (u : TickUpdate) :
    Session × Except Fault (Option SnapshotMessage) :=
  match (session.count fun c => { c with processed := c.processed + 1 }).apply clock u with
  | (next, .error fault) => (next, .error fault)
  | (next, .ok none) => (next.count fun c => { c with dropped := c.dropped + 1 }, .ok none)
  | (next, .ok (some s)) =>
    if s.isPublishable then
      match next.pipeline.message s with
      | .error failure => (next, .error (.failed failure))
      | .ok m =>
        let counted := next.count fun c => { c with emitted := c.emitted + 1 }
        counted.telling clock (Note.emitted s m) (some m)
    else (next, .ok none)

inductive Step where
  | register (tickerId symbol conId : Value)
  | apply (fields : Table Text Value)
  | process (fields : Table Text Value)
  | get (symbol : Value)
  | snapshots

inductive Reply where
  | done
  | state (s : Option InstrumentState)
  | message (m : Option SnapshotMessage)
  | states (all : List InstrumentState)

def answer (pipeline : Pipeline) : Step → Pipeline.Step Reply
  | .register tickerId symbol conId =>
    (pipeline.register tickerId symbol conId).map fun _ => .done
  | .apply fields =>
    match TickUpdate.readNamed fields with
    | .error r => ⟨pipeline, .error (.rejected r), []⟩
    | .ok u => (pipeline.apply u).map .state
  | .process fields =>
    match TickUpdate.readNamed fields with
    | .error r => ⟨pipeline, .error (.rejected r), []⟩
    | .ok u => (pipeline.process u).map .message
  | .get symbol => ⟨pipeline, (pipeline.state symbol).map .state, []⟩
  | .snapshots => ⟨pipeline, .ok (.states pipeline.book.snapshots), []⟩

def perform (session : Session) : Step → Session × Except Fault Reply
  | .register tickerId symbol conId =>
    let (next, result) := session.register clock tickerId symbol conId
    (next, result.map fun _ => .done)
  | .apply fields =>
    match TickUpdate.readNamed fields with
    | .error r => (session, .error (.failed (.rejected r)))
    | .ok u =>
      let (next, result) := session.apply clock u
      (next, result.map .state)
  | .process fields =>
    match TickUpdate.readNamed fields with
    | .error r => (session, .error (.failed (.rejected r)))
    | .ok u =>
      let (next, result) := session.process clock u
      (next, result.map .message)
  | .get symbol => (session, ((session.pipeline.state symbol).mapError .failed).map .state)
  | .snapshots => (session, .ok (.states session.pipeline.book.snapshots))

def run (session : Session) (steps : List Step) : Session :=
  steps.foldl (fun session step => (session.perform clock step).1) session

def replies (session : Session) : List Step → List (Except Fault Reply × Counters)
  | [] => []
  | step :: rest =>
    let (next, result) := session.perform clock step
    (result, next.pipeline.counters) :: next.replies rest

end Clock

end Session

def Journal.arrivals (journal : Journal) : List (Nat × LogRecord) :=
  journal.deliveries.map fun delivery => (delivery.handle, delivery.record)

namespace Session

def records (session : Session) : List LogRecord := session.journal.deliveries.map Delivery.record

theorem records_eq (session : Session) :
    session.records = session.journal.arrivals.map Prod.snd := by
  simp [records, Journal.arrivals]

def Free (note : Note) : Prop := LogRecord.clash? (record note).extra = none

theorem free_registered (tickerId symbol : Value) : Free (Note.registered tickerId symbol) := rfl

theorem free_unknownTicker (u : TickUpdate) : Free (Note.unknownTicker u) := rfl

theorem free_emitted (s : InstrumentState) (m : SnapshotMessage) : Free (Note.emitted s m) := rfl

structure Voiced (journal : Journal) : Prop where
  handle : ∀ origin, ∃ handle, journal.handles[handleOf origin]? = some handle ∧
    handle.logger = logger origin ∧ handle.component = .string Origin.component ∧
    handle.context = []

/-- The handles alone take the records of their parts, at one level for both. -/
structure Ready (level : Int) (journal : Journal) : Prop extends Voiced journal where
  level : ∀ origin, journal.registry.effectiveLevel (logger origin) = level
  upToDate : ∀ origin, journal.UpToDate (logger origin)
  sinks : ∀ origin, journal.registry.sinks (logger origin) = [handleOf origin]

theorem record_of_handle {handle : LogHandle} {note : Note}
    (own : handle.logger = logger note.origin)
    (component : handle.component = .string Origin.component) (context : handle.context = [])
    (around : Surroundings) :
    handle.record note.severity (.text note.message) note.arguments around = record note := by
  have tag : (Value.string Origin.component).orElse (.string "main") =
      .string Origin.component := rfl
  unfold LogHandle.record LogHandle.attributes Note.arguments record
  rw [own, component, context, tag]
  by_cases bare : note.extra = []
  · rw [bare]
    rfl
  · have given : note.extra.isEmpty = false := by simpa using bare
    rw [given]
    rfl

section Notes

variable (clock : Clock)

theorem adds_log (journal : Journal) (note : Note) :
    ∃ deliveries strays, Journal.Adds journal (log clock journal note) deliveries strays := by
  rcases (Journal.emitted journal (logger note.origin) (record note)
    (clock journal.deliveries.length)).adds with nothing | added
  · exact ⟨_, _, nothing⟩
  · exact ⟨_, _, added⟩

theorem logAll_keeps (journal : Journal) (notes : List Note) :
    (notes.foldl (log clock) journal).registry = journal.registry ∧
      (notes.foldl (log clock) journal).handles = journal.handles ∧
      (notes.foldl (log clock) journal).passes = journal.passes := by
  induction notes generalizing journal with
  | nil => exact ⟨rfl, rfl, rfl⟩
  | cons note rest ih =>
    obtain ⟨_, _, added⟩ := adds_log clock journal note
    obtain ⟨registry, handles, passes⟩ := ih (log clock journal note)
    exact ⟨registry.trans added.registry, handles.trans added.handles, passes.trans added.passes⟩

def sent (registry : Registry) (note : Note) : List (Nat × LogRecord) :=
  (registry.sinks (logger note.origin)).map (·, record note)

def heard (passes : LoggerId → Severity → Bool) (note : Note) : Bool :=
  passes (logger note.origin) note.severity

theorem arrivals_log (journal : Journal) {note : Note} (free : Free note) :
    (log clock journal note).arrivals = journal.arrivals ++
      if heard journal.passes note then sent journal.registry note else [] := by
  have added := (Journal.emit_of_free journal (logger note.origin) free
    (clock journal.deliveries.length)).2
  unfold Journal.arrivals
  by_cases passes : heard journal.passes note = true
  · have high : journal.passes (logger note.origin) (record note).severity = true := passes
    rw [if_pos high] at added
    rw [if_pos passes, log, added.deliveries, List.map_append, Journal.sent, List.map_map]
    rfl
  · have low : ¬ journal.passes (logger note.origin) (record note).severity = true := passes
    rw [if_neg low] at added
    rw [if_neg passes, log, added.deliveries, List.append_nil, List.append_nil]

theorem arrivals_logAll (journal : Journal) {notes : List Note} (free : ∀ note ∈ notes, Free note) :
    (notes.foldl (log clock) journal).arrivals = journal.arrivals ++
      (notes.filter (heard journal.passes)).flatMap (sent journal.registry) := by
  induction notes generalizing journal with
  | nil => simp
  | cons note rest ih =>
    obtain ⟨first, later⟩ := List.forall_mem_cons.mp free
    obtain ⟨_, _, added⟩ := adds_log clock journal note
    rw [List.foldl_cons, ih _ later, added.registry, added.passes, arrivals_log clock journal first,
      List.append_assoc, List.filter_cons]
    split <;> rfl

namespace Voiced

variable {journal : Journal} (voiced : Voiced journal)

include voiced

theorem of_handles {next : Journal} (same : next.handles = journal.handles) : Voiced next :=
  ⟨same ▸ voiced.handle⟩

theorem tell {note : Note} (free : Free note) :
    Session.tell clock journal note = (log clock journal note, .ok ()) := by
  obtain ⟨handle, made, own, component, context⟩ := voiced.handle note.origin
  have no_repeat : (Table.keys note.arguments).find? (· ∈ ["self", "msg"]) = none := by
    unfold Note.arguments
    split <;> rfl
  unfold Session.tell Journal.log
  rw [made]
  dsimp only
  rw [no_repeat, record_of_handle own component context, own]
  exact Prod.ext rfl (Journal.emit_of_free journal (logger note.origin) free _).1

theorem telling {α : Type} {note : Note} (free : Free note) (pipeline : Pipeline) (a : α) :
    Session.telling clock ⟨pipeline, journal⟩ note a =
      (⟨pipeline, log clock journal note⟩, .ok a) := by
  unfold Session.telling
  rw [voiced.tell clock free]

theorem logAll (notes : List Note) : Voiced (notes.foldl (log clock) journal) :=
  voiced.of_handles (logAll_keeps clock journal notes).2.1

end Voiced

end Notes

section Steps

variable (clock : Clock)

def taken {α : Type} (session : Session) (step : Pipeline.Step α) : Session × Except Fault α :=
  (session.take clock step, step.outcome.mapError .failed)

variable {session : Session} (voiced : Voiced session.journal)

theorem Voiced.take {α : Type} {session : Session} (voiced : Voiced session.journal)
    (step : Pipeline.Step α) : Voiced (session.take clock step).journal :=
  voiced.logAll clock step.notes

theorem Ready.take {α : Type} {level : Int} {session : Session}
    (ready : Ready level session.journal) (step : Pipeline.Step α) :
    Ready level (session.take clock step).journal := by
  obtain ⟨registry, _, passes⟩ := logAll_keeps clock session.journal step.notes
  refine ⟨ready.toVoiced.take clock step, ?_, ?_, ?_⟩
  · intro origin
    exact (congrArg (Registry.effectiveLevel · (logger origin)) registry).trans (ready.level origin)
  · intro origin severity
    rw [Session.take, passes, registry]
    exact ready.upToDate origin severity
  · intro origin
    exact (congrArg (Registry.sinks · (logger origin)) registry).trans (ready.sinks origin)

theorem taken_map {α β : Type} (f : α → β) (step : Pipeline.Step α) :
    session.taken clock (step.map f) =
      ((session.taken clock step).1, (session.taken clock step).2.map f) := by
  unfold taken Pipeline.Step.map
  cases step.outcome <;> rfl

include voiced

theorem register_eq (tickerId symbol conId : Value) :
    session.register clock tickerId symbol conId =
      session.taken clock (session.pipeline.register tickerId symbol conId) := by
  unfold register Pipeline.register taken
  obtain ⟨book, result⟩ := session.pipeline.book.register tickerId symbol conId
  cases result with
  | error e => rfl
  | ok _ => exact voiced.telling clock (free_registered tickerId symbol) _ ()

theorem apply_eq (u : TickUpdate) :
    session.apply clock u = session.taken clock (session.pipeline.apply u) := by
  unfold apply Pipeline.apply taken
  obtain ⟨book, applied⟩ := session.pipeline.book.apply u
  cases applied with
  | unknownTicker => exact voiced.telling clock (free_unknownTicker u) _ none
  | notKey e => rfl
  | noState symbol => rfl
  | merged s => rfl

theorem process_eq (u : TickUpdate) :
    session.process clock u = session.taken clock (session.pipeline.process u) := by
  have applied (f : Counters → Counters) : (session.count f).apply clock u =
      (session.count f).taken clock ((session.pipeline.count f).apply u) := by
    have still : Voiced (session.count f).journal := voiced
    exact apply_eq clock still u
  unfold process Pipeline.process
  dsimp only
  rw [applied]
  generalize (session.pipeline.count _).apply u = step
  obtain ⟨pipeline, outcome, notes⟩ := step
  rcases outcome with failure | _ | s
  · rfl
  · rfl
  · unfold taken
    dsimp only [Except.mapError]
    by_cases publishable : s.isPublishable = true
    · rw [if_pos publishable, if_pos publishable]
      -- The note of the message comes after those of the tick.
      have after : Voiced (notes.foldl (log clock) session.journal) := voiced.logAll clock notes
      dsimp only [take, count]
      cases pipeline.message s with
      | error e => rfl
      | ok m =>
        dsimp only
        rw [after.telling clock (free_emitted s m), List.foldl_append]
        rfl
    · rw [if_neg publishable, if_neg publishable]
      rfl

theorem perform_eq (step : Step) :
    session.perform clock step = session.taken clock (answer session.pipeline step) := by
  unfold perform answer
  cases step with
  | register tickerId symbol conId =>
    dsimp only
    rw [register_eq clock voiced, taken_map]
  | apply fields =>
    dsimp only
    cases TickUpdate.readNamed fields with
    | error r => rfl
    | ok u =>
      dsimp only
      rw [apply_eq clock voiced, taken_map]
  | process fields =>
    dsimp only
    cases TickUpdate.readNamed fields with
    | error r => rfl
    | ok u =>
      dsimp only
      rw [process_eq clock voiced, taken_map]
  | get symbol =>
    unfold taken
    dsimp only
    cases session.pipeline.state symbol <;> rfl
  | snapshots => rfl

end Steps

def answers (pipeline : Pipeline) : List Step → List (Except Fault Reply × Counters)
  | [] => []
  | step :: rest =>
    let done := answer pipeline step
    (done.outcome.mapError .failed, done.pipeline.counters) :: answers done.pipeline rest

def notes (pipeline : Pipeline) : List Step → List Note
  | [] => []
  | step :: rest =>
    let done := answer pipeline step
    done.notes ++ notes done.pipeline rest

theorem not_refused {pipeline : Pipeline} {steps : List Step} :
    ∀ reply ∈ answers pipeline steps, ∀ e, reply.1 ≠ .error (.refused e) := by
  induction steps generalizing pipeline with
  | nil => simp [answers]
  | cons step rest ih =>
    intro reply member e
    rcases List.mem_cons.mp member with rfl | later
    · cases (answer pipeline step).outcome <;> simp [Except.mapError]
    · exact ih reply later e

theorem free_register (pipeline : Pipeline) (tickerId symbol conId : Value) :
    ∀ note ∈ (pipeline.register tickerId symbol conId).notes, Free note := by
  unfold Pipeline.register
  obtain ⟨book, result⟩ := pipeline.book.register tickerId symbol conId
  cases result <;> simp [free_registered]

theorem free_apply (pipeline : Pipeline) (u : TickUpdate) :
    ∀ note ∈ (pipeline.apply u).notes, Free note := by
  unfold Pipeline.apply
  obtain ⟨book, applied⟩ := pipeline.book.apply u
  cases applied <;> simp [free_unknownTicker]

theorem free_process (pipeline : Pipeline) (u : TickUpdate) :
    ∀ note ∈ (pipeline.process u).notes, Free note := by
  unfold Pipeline.process
  dsimp only
  have applied := free_apply (pipeline.count fun c => { c with processed := c.processed + 1 }) u
  generalize (pipeline.count _).apply u = step at applied ⊢
  obtain ⟨pipeline, outcome, notes⟩ := step
  rcases outcome with failure | _ | s
  · exact applied
  · exact applied
  · dsimp only
    split
    · cases pipeline.message s with
      | error failure => exact applied
      | ok m => exact List.forall_mem_append.mpr ⟨applied, by simp [free_emitted]⟩
    · exact applied

theorem free_answer (pipeline : Pipeline) (step : Step) :
    ∀ note ∈ (answer pipeline step).notes, Free note := by
  cases step with
  | register tickerId symbol conId =>
    exact free_register pipeline tickerId symbol conId
  | apply fields =>
    unfold answer
    dsimp only
    split
    · simp
    · exact free_apply pipeline _
  | process fields =>
    unfold answer
    dsimp only
    split
    · simp
    · exact free_process pipeline _
  | get symbol => simp [answer]
  | snapshots => simp [answer]

section Runs

variable (clock : Clock)

theorem arrivals_run {session : Session} (voiced : Voiced session.journal) (steps : List Step) :
    (session.run clock steps).journal.arrivals = session.journal.arrivals ++
      ((notes session.pipeline steps).filter (heard session.journal.passes)).flatMap
        (sent session.journal.registry) := by
  induction steps generalizing session with
  | nil => simp [run, notes]
  | cons step rest ih =>
    obtain ⟨registry, _, passes⟩ :=
      logAll_keeps clock session.journal (answer session.pipeline step).notes
    have first := arrivals_logAll clock session.journal (free_answer session.pipeline step)
    have later := ih (voiced.take clock (answer session.pipeline step))
    rw [take, registry, passes, first] at later
    rw [run, List.foldl_cons, perform_eq clock voiced, notes, List.filter_append,
      List.flatMap_append, ← List.append_assoc]
    exact later

variable {level : Int} {session : Session} (ready : Ready level session.journal)

include ready

theorem replies_eq (steps : List Step) :
    session.replies clock steps = answers session.pipeline steps := by
  induction steps generalizing session with
  | nil => rfl
  | cons step rest ih =>
    rw [replies, perform_eq clock ready.toVoiced, answers]
    exact congrArg _ (ih (ready.take clock (answer session.pipeline step)))

theorem records_run (steps : List Step) :
    (session.run clock steps).records = session.records ++
      ((notes session.pipeline steps).filter fun note => level ≤ note.severity.rank).map
        record := by
  have selected : heard session.journal.passes =
      fun note : Note => decide (level ≤ note.severity.rank) := by
    funext note
    rw [heard, ready.upToDate, Registry.passes, ready.level]
  have one (note : Note) : (sent session.journal.registry note).map Prod.snd = [record note] := by
    unfold sent
    rw [ready.sinks]
    rfl
  rw [records_eq, records_eq, arrivals_run clock ready.toVoiced, List.map_append, selected,
    List.map_flatMap]
  simp only [one, ← List.map_eq_flatMap]

end Runs

def request (origin : Origin) : LogRequest :=
  ⟨.string origin.name, .string Origin.component, .null, .null, .bool true, .null,
    .string "midnight"⟩

theorem read_arguments (origin : Origin) :
    LogRequest.read (arguments origin) = .ok (request origin) := rfl

theorem logger_request (origin : Origin) : (request origin).logger = .ok (logger origin) := by
  cases origin <;> rfl

theorem request_made {journal next : Journal} {settings : LoggingSettings} {today : Date}
    {origin : Origin} {handle : LogHandle}
    (made : journal.request settings today (arguments origin) = (next, .ok handle)) :
    ∃ level, Level.read (.text settings.level.upper) = .ok level ∧
      handle.logger = logger origin ∧ handle.component = .string Origin.component ∧
      handle.context = [] ∧ next.handles = journal.handles ++ [handle] ∧
      Journal.Requested journal (some (logger origin))
        (some ⟨logger origin, level, some journal.handles.length⟩) next := by
  unfold Journal.request at made
  rw [read_arguments] at made
  dsimp only at made
  have carried := Journal.carried journal (request origin) settings today
  rw [made] at carried
  cases carried with
  | made id named level accepted file wanted tree =>
    rw [logger_request] at named
    cases named
    exact ⟨level, accepted, rfl, rfl, rfl, rfl,
      .made ((request origin).handle settings today _ file)
        (LogRequest.name_ne_nil (logger_request origin)) wanted level tree⟩

theorem steady_logger (names : List Text) (origin : Origin) :
    Registry.Steady names (logger origin).name := by
  have spaced : ¬ [Registry.dot, Registry.dot] <:+: (logger origin).name := by
    cases origin <;> decide
  have apart : ∀ outer ∈ Registry.outerNames (logger origin).name,
      ¬ outer <+: LoggerId.root.name := by
    cases origin <;> decide
  exact ⟨spaced, fun outer cut _ => apart outer cut⟩

def openLedger (level : Int) : Ledger :=
  ⟨[(logger .book).name, (logger .pipeline).name],
    [⟨logger .book, level, some 0⟩, ⟨logger .pipeline, level, some 1⟩]⟩

theorem ancestry_logger (level : Int) (origin : Origin) :
    Registry.ancestry (openLedger level).names (logger origin) = [logger origin, .root] := by
  have way := (steady_logger (openLedger level).names origin).ancestry_eq
  cases origin with
  | book => exact way.trans rfl
  | pipeline => exact way.trans rfl

theorem effectiveLevel_logger (level : Int) (origin : Origin) :
    (openLedger level).effectiveLevel (logger origin) =
      if level = 0 then Severity.warning.rank else level := by
  have own : (openLedger level).level (logger origin) = level := by cases origin <;> rfl
  have root : (openLedger level).level .root = Severity.warning.rank := rfl
  unfold Ledger.effectiveLevel
  rw [ancestry_logger, List.map_cons, List.map_cons, own, root]
  by_cases undecided : level = 0
  · subst undecided
    rfl
  · simp [undecided]

theorem reached_logger (level : Int) (origin : Origin) :
    (openLedger level).reached (logger origin) = [handleOf origin] := by
  have own : (openLedger level).holder (logger origin) = some (handleOf origin) := by
    cases origin <;> rfl
  have root : (openLedger level).holder .root = none := rfl
  unfold Ledger.reached
  rw [ancestry_logger]
  simp [own, root]

def opening (today : Date) : List Journal.Step :=
  [.request today (arguments .book), .request today (arguments .pipeline)]

theorem requests_of_openJournal {tree : FileTree} {settings : LoggingSettings} {today : Date}
    {journal : Journal} (opened : openJournal tree settings today = .ok journal) :
    ∃ half handle other,
      (Journal.initial tree).request settings today (arguments .book) = (half, .ok handle) ∧
        half.request settings today (arguments .pipeline) = (journal, .ok other) := by
  unfold openJournal at opened
  rcases first : (Journal.initial tree).request settings today (arguments .book) with
    ⟨half, e | handle⟩
  · rw [first] at opened
    cases opened
  · rw [first] at opened
    dsimp only at opened
    rcases second : half.request settings today (arguments .pipeline) with ⟨whole, e | other⟩
    · rw [second] at opened
      cases opened
    · rw [second] at opened
      cases opened
      exact ⟨half, handle, other, rfl, second⟩

theorem eq_run_of_openJournal {tree : FileTree} {settings : LoggingSettings} {today : Date}
    {journal : Journal} (opened : openJournal tree settings today = .ok journal) :
    journal = Journal.run settings tree (opening today) := by
  obtain ⟨half, handle, other, first, second⟩ := requests_of_openJournal opened
  simp only [Journal.run, opening, List.foldl_cons, List.foldl_nil, Journal.perform, first, second]

theorem Voiced.logger_mem {journal : Journal} (voiced : Voiced journal) (origin : Origin) :
    logger origin ∈ journal.loggers := by
  obtain ⟨handle, made, own, _⟩ := voiced.handle origin
  exact own ▸ Journal.mem_loggers made

theorem Voiced.upToDate {settings : LoggingSettings} {tree : FileTree} {steps : List Journal.Step}
    (voiced : Voiced (Journal.run settings tree steps)) (origin : Origin) :
    (Journal.run settings tree steps).UpToDate (logger origin) :=
  Journal.upToDate_run (voiced.logger_mem origin) (steady_logger _ origin)

theorem ready_of_openJournal {tree : FileTree} {settings : LoggingSettings} {today : Date}
    {journal : Journal} (opened : openJournal tree settings today = .ok journal) :
    journal.deliveries = [] ∧ ∃ level, Level.read (.text settings.level.upper) = .ok level ∧
      Ready (if level = 0 then Severity.warning.rank else level) journal := by
  have steps := eq_run_of_openJournal opened
  obtain ⟨half, handle, other, first, second⟩ := requests_of_openJournal opened
  obtain ⟨level, read, own, component, context, handles, requested⟩ := request_made first
  obtain ⟨again, same, own', component', context', handles', requested'⟩ := request_made second
  rw [read] at same
  cases same
  have both : journal.handles = [handle, other] := by
    rw [handles', handles]
    rfl
  have reflects : Journal.Reflects (openLedger level) journal := by
    rw [handles] at requested'
    exact ((Journal.reflects_initial tree).request requested).request requested'
  have voiced : Voiced journal := by
    refine ⟨fun origin => ?_⟩
    rw [both]
    cases origin with
    | book => exact ⟨handle, rfl, own, component, context⟩
    | pipeline => exact ⟨other, rfl, own', component', context'⟩
  have made := voiced.logger_mem
  refine ⟨requested'.deliveries.1.trans requested.deliveries.1, level, read, voiced, ?_, ?_, ?_⟩
  · intro origin
    rw [reflects.effectiveLevel (made origin), effectiveLevel_logger]
  · rw [steps] at voiced ⊢
    exact voiced.upToDate
  · intro origin
    rw [reflects.sinks (made origin), reached_logger]

theorem parts_of_start {tree : FileTree} {settings : Settings} {today : Date}
    {withTime channelPrefix : Value} {session : Session}
    (started : start tree settings today withTime channelPrefix = .ok session) :
    session.pipeline = Pipeline.new settings.serializer withTime channelPrefix ∧
      openJournal tree settings.logging today = .ok session.journal := by
  unfold start at started
  cases opened : openJournal tree settings.logging today with
  | error e =>
    rw [opened] at started
    cases started
  | ok journal =>
    rw [opened] at started
    cases started
    exact ⟨rfl, rfl⟩

theorem debug_rank_le (severity : Severity) : Severity.debug.rank ≤ severity.rank := by
  cases severity <;> decide

/-- What one session is to another that goes through the same steps: the same to its caller, and in
its records a selection by level. -/
structure Selects (level : Int) (first second : Session) (clock other : Clock) (steps : List Step) :
    Prop where
  replies : first.replies clock steps = second.replies other steps
  accepted : ∀ reply ∈ first.replies clock steps, ∀ e, reply.1 ≠ .error (.refused e)
  effective : ∀ origin, first.journal.registry.effectiveLevel (logger origin) = level
  /-- If the second session lets every record pass, the first one has those that are not below its
  level, in the same order. -/
  records :
    (∀ origin, second.journal.registry.effectiveLevel (logger origin) = Severity.debug.rank) →
      (first.run clock steps).records =
        (second.run other steps).records.filter fun record => level ≤ record.severity.rank

def IsLevelOf (settings : LoggingSettings) (level : Int) : Prop :=
  ∃ given, Level.read (.text settings.level.upper) = .ok given ∧
    level = if given = 0 then Severity.warning.rank else given

section Selects

variable {left right : Settings} {tree other_tree : FileTree} {today other_day : Date}
  {withTime channelPrefix : Value} {first second : Session}

theorem selects_of_start (same : left.serializer = right.serializer)
    (started_first : start tree left today withTime channelPrefix = .ok first)
    (started_second : start other_tree right other_day withTime channelPrefix = .ok second)
    (clock other : Clock) (steps : List Step) :
    ∃ level, IsLevelOf left.logging level ∧ Selects level first second clock other steps := by
  obtain ⟨pipeline, opened⟩ := parts_of_start started_first
  obtain ⟨pipeline', opened'⟩ := parts_of_start started_second
  obtain ⟨silent, given, read, ready⟩ := ready_of_openJournal opened
  obtain ⟨silent', _, _, ready'⟩ := ready_of_openJournal opened'
  have alike : first.pipeline = second.pipeline := by rw [pipeline, pipeline', same]
  have empty : first.records = [] := congrArg (List.map Delivery.record) silent
  have empty' : second.records = [] := congrArg (List.map Delivery.record) silent'
  have answered := replies_eq clock ready steps
  refine ⟨_, ⟨given, read, rfl⟩, ?_, ?_, ready.level, ?_⟩
  · rw [answered, replies_eq other ready' steps, alike]
  · rw [answered]
    exact not_refused
  · intro all
    have debug := (ready'.level .book).symm.trans (all .book)
    have passes : ∀ note ∈ notes second.pipeline steps,
        decide (Severity.debug.rank ≤ note.severity.rank) = true :=
      fun note _ => decide_eq_true (debug_rank_le note.severity)
    rw [debug] at ready'
    rw [records_run clock ready, records_run other ready', empty, empty', alike,
      List.filter_eq_self.mpr passes, List.nil_append, List.nil_append, List.filter_map]
    rfl

variable (started_first : start tree left today withTime channelPrefix = .ok first)
  (started_second : start other_tree right other_day withTime channelPrefix = .ok second)
  (clock other : Clock) (steps : List Step)

include started_first started_second

/-- Two sessions whose settings come from sources that differ only in how logging is done. -/
theorem logging_only_selects {s t : Sources} (agree : s.AgreeApartFromLogging t)
    (loaded_left : Settings.load s = .ok left) (loaded_right : Settings.load t = .ok right) :
    ∃ level, IsLevelOf left.logging level ∧ Selects level first second clock other steps :=
  selects_of_start (agree.settings loaded_left loaded_right) started_first started_second clock
    other steps

theorem logging_only_selects_beside {s t : Environment}
    (same : Sources.apartFromLogging s = Sources.apartFromLogging t) {file : String}
    (reads : Sources.ReadsNoLogging (EnvFile.bindings file.toList))
    (loaded_left : Settings.load (Sources.of s file) = .ok left)
    (loaded_right : Settings.load (Sources.of t file) = .ok right) :
    ∃ level, IsLevelOf left.logging level ∧ Selects level first second clock other steps :=
  have agree := Sources.agreeApartFromLogging_of same reads
  selects_of_start (agree.settings loaded_left loaded_right) started_first started_second clock
    other steps

end Selects

def environmentAt (level : String) : Environment := [("LOG_LEVEL", Text.ofString level)]

def prefixFile : String := "SERIALIZER_CHANNEL_PREFIX=P:"

def sourcesAt (level : String) : Sources := Sources.of (environmentAt level) prefixFile

def settingsAt (level : String) : Settings := ⟨⟨"P:", false⟩, ⟨Text.ofString level, false, "logs"⟩⟩

def longId : Int := Nat.pow 10 Text.Numeral.integerLimit

def mixedSteps : List Step :=
  let tick (tickerId : Int) (side : String) : Table Text Value :=
    [("ticker_id", .int tickerId), ("type", .string side), ("timestamp", .int 100)]
  [.register (.int 1) (.string "A") (.int 7), .process (tick 1 "bid_ask"),
    .process (tick 1 "all_last"), .process (tick 9 "bid_ask"), .apply [("ticker_id", .int 1)],
    .register (.int 2) (.list []) (.int 7), .register (.int longId) (.string "A") (.int 7),
    .get (.string "A"), .snapshots]

theorem exists_of_isOk {ε α : Type} {x : Except ε α} (ok : x.isOk = true) : ∃ a, x = .ok a := by
  cases x with
  | error e => cases ok
  | ok a => exact ⟨a, rfl⟩

def still : Clock := fun _ _ => none

theorem logging_only_selects_warning :
    ∃ first second, start .bare (settingsAt "warn") ⟨2024, 1, 2⟩ .null .null = .ok first ∧
      start .bare (settingsAt "debug") ⟨2024, 1, 2⟩ .null .null = .ok second ∧
      first.replies still mixedSteps = second.replies still mixedSteps ∧
      (second.run still mixedSteps).records.length = 3 ∧
      (first.run still mixedSteps).records = (second.run still mixedSteps).records.filter
        fun record => Severity.warning.rank ≤ record.severity.rank := by
  have same : Sources.apartFromLogging (environmentAt "warn") =
      Sources.apartFromLogging (environmentAt "debug") := rfl
  have reads : Sources.ReadsNoLogging (EnvFile.bindings prefixFile.toList) := by decide
  have agree : (sourcesAt "warn").AgreeApartFromLogging (sourcesAt "debug") :=
    Sources.agreeApartFromLogging_of same reads
  have loaded_warn : Settings.load (sourcesAt "warn") = .ok (settingsAt "warn") := rfl
  have loaded_debug : Settings.load (sourcesAt "debug") = .ok (settingsAt "debug") := rfl
  have opens_warn : (start .bare (settingsAt "warn") ⟨2024, 1, 2⟩ .null .null).isOk = true := by
    decide +kernel
  have opens_debug : (start .bare (settingsAt "debug") ⟨2024, 1, 2⟩ .null .null).isOk = true := by
    decide +kernel
  obtain ⟨first, started_first⟩ := exists_of_isOk opens_warn
  obtain ⟨second, started_second⟩ := exists_of_isOk opens_debug
  obtain ⟨level, ⟨given, read, rfl⟩, selects⟩ :=
    logging_only_selects started_first started_second still still mixedSteps agree loaded_warn
      loaded_debug
  have warn : given = 30 := Except.ok.inj (read.symm.trans (by rfl))
  obtain ⟨_, lowest, read_lowest, ready⟩ :=
    ready_of_openJournal (parts_of_start started_second).2
  have debug : lowest = 10 := Except.ok.inj (read_lowest.symm.trans (by rfl))
  subst warn debug
  have three : ((start .bare (settingsAt "debug") ⟨2024, 1, 2⟩ .null .null).map fun session =>
      (session.run still mixedSteps).records.length).toOption = some 3 := by decide +kernel
  rw [started_second] at three
  exact ⟨first, second, started_first, started_second, selects.replies, Option.some.inj three,
    selects.records ready.level⟩

end Session

end MarketSnapshot
