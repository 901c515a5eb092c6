import MarketSnapshot.Proofs.Interleaving
import MarketSnapshot.Proofs.RecordAttributes
import MarketSnapshot.Proofs.SessionRuns
import MarketSnapshot.Proofs.TickTally

namespace MarketSnapshot

namespace Book

theorem firstState_symbol {symbol : Text} {conId tickerId : Value} {s : InstrumentState}
    (first : firstState (.text symbol) conId tickerId = .ok s) : s.symbol = symbol := by
  have made := InstrumentState.readBy.makes _ s first
  unfold InstrumentState.rules InstrumentState.entries at made
  cases made with
  | cons field _ =>
    obtain ⟨t, read, same⟩ := Field.Kind.map_eq_ok_iff.mp field.2
    cases same
    exact ((Field.readEncodableText_text symbol _).mp read).2.symm

theorem renew_symbol (s : InstrumentState) (conId : Value) : (renew s conId).symbol = s.symbol := by
  unfold renew
  split <;> rfl

theorem Labelled.register {book : Book} (labelled : book.Labelled)
    (tickerId symbol conId : Value) : (book.register tickerId symbol conId).1.Labelled := by
  have routed : (book.route tickerId symbol).Labelled := labelled
  unfold Book.register
  cases checkKey tickerId with
  | error e => exact labelled
  | ok _ =>
    cases symbol with
    | text t =>
      dsimp only
      unfold enter
      cases known : (book.route tickerId (.text t)).state? t with
      | some s =>
        have own : (renew s conId).symbol = t := (renew_symbol s conId).trans (labelled t s known)
        exact routed.setState own
      | none =>
        dsimp only
        cases first : firstState (.text t) conId tickerId with
        | error rejection => exact routed
        | ok s => exact routed.setState (firstState_symbol first)
    | _ => exact routed

end Book

namespace Pipeline

theorem apply_notes (pipeline : Pipeline) (u : TickUpdate) :
    (pipeline.apply u).notes = if pipeline.isUnknown u then [Note.unknownTicker u] else [] := by
  rw [isUnknown_eq]
  unfold apply
  obtain ⟨book, applied⟩ := pipeline.book.apply u
  cases applied <;> rfl

def announced : Book.Applied → Except Failure (Option SnapshotMessage) → List Note
  | .merged s, .ok (some m) => [Note.emitted s m]
  | _, _ => []

theorem process_notes (pipeline : Pipeline) (u : TickUpdate) :
    (pipeline.process u).notes = (pipeline.apply u).notes ++
      announced (pipeline.book.apply u).2 (pipeline.process u).outcome := by
  unfold process apply count
  dsimp only
  obtain ⟨book, applied⟩ := pipeline.book.apply u
  cases applied with
  | unknownTicker => rfl
  | notKey e => rfl
  | noState symbol => rfl
  | merged s =>
    by_cases publishable : s.isPublishable = true
    · have same : ∀ counters, Pipeline.message ⟨book, pipeline.serializer, pipeline.channelPrefix,
          counters⟩ s = pipeline.message s := fun _ => rfl
      cases written : pipeline.message s <;> simp [announced, publishable, same, written]
    · simp [announced, publishable]

theorem countP_process_notes (pipeline : Pipeline) (u : TickUpdate) :
    (pipeline.process u).notes.countP (·.severity = .warning) = (pipeline.isUnknown u).toNat ∧
      (pipeline.process u).notes.countP (·.origin = .pipeline) = (pipeline.emits u).toNat := by
  rw [process_notes, apply_notes, isUnknown_eq]
  unfold emits
  rw [process_outcome]
  cases (pipeline.book.apply u).2 with
  | unknownTicker => exact ⟨rfl, rfl⟩
  | notKey e => exact ⟨rfl, rfl⟩
  | noState symbol => exact ⟨rfl, rfl⟩
  | merged s => rcases pipeline.verdict (.merged s) with _ | _ | _ <;> exact ⟨rfl, rfl⟩

theorem state_of_message {pipeline : Pipeline} (labelled : pipeline.book.Labelled) {u : TickUpdate}
    {m : SnapshotMessage} (emitted : (pipeline.process u).outcome = .ok (some m)) :
    ∃ s, (pipeline.book.apply u).2 = .merged s ∧ m.symbol = s.symbol ∧
      (pipeline.process u).pipeline.book.state? m.symbol = some s := by
  rw [process_outcome] at emitted
  obtain ⟨s, merged, same⟩ := merged_of_message emitted
  refine ⟨s, merged, same, ?_⟩
  rw [process_pipeline]
  dsimp only
  rcases Book.apply_cases pipeline.book u with ⟨_, lost⟩ | ⟨symbol, old, _, known, outcome⟩
  · exact absurd merged (lost s)
  · rw [outcome] at merged ⊢
    cases merged
    have own : m.symbol = symbol := by
      rw [same, Book.merge_symbol, labelled symbol old known]
    -- The state was stored under the symbol of the route, which is its own only in a labelled book.
    rw [own, Book.state?_setState, if_pos rfl]

theorem register_notes (pipeline : Pipeline) (tickerId symbol conId : Value) :
    (pipeline.register tickerId symbol conId).notes =
      match (pipeline.register tickerId symbol conId).outcome with
      | .ok _ => [Note.registered tickerId symbol]
      | .error _ => [] := by
  unfold register
  obtain ⟨book, result⟩ := pipeline.book.register tickerId symbol conId
  cases result <;> rfl

end Pipeline

namespace Session

def Step.tick? : Step → Option TickUpdate
  | .apply fields | .process fields => (TickUpdate.readNamed fields).toOption
  | _ => none

def registration (tickerId symbol : Value) : LogRecord where
  logger := "state_aggregator.app"
  severity := .debug
  message := .text
    (Text.ofString "Ticker registered: " ++ tickerId.display ++ " -> " ++ symbol.display)
  extra := [("component", .string "app")]
  exception := none
  stack := none

def warning (u : TickUpdate) : LogRecord where
  logger := "state_aggregator.app"
  severity := .warning
  message := .string s!"Unknown tickerId: {u.tickerId}, dropping {u.side.name} update"
  extra := [("component", .string "app"), ("ticker_id", .int u.tickerId)]
  exception := none
  stack := none

def prices (s : InstrumentState) : Text :=
  Text.ofString s!" | Bid: {s.bidPrice.display} | Ask: {s.askPrice.display}"
    ++ Text.ofString s!" | Last: {s.lastPrice.display}"

def publication (after : Pipeline) (m : SnapshotMessage) : LogRecord where
  logger := "snapshot_pipeline.app"
  severity := .debug
  message := .text
    (Text.ofString "Snapshot ready: " ++ m.symbol ++ (after.book.state? m.symbol).elim [] prices)
  extra := [("component", .string "app"), ("channel", .text m.channel)]
  exception := none
  stack := none

def registered (step : Step) (reply : Except Fault Reply) : List LogRecord :=
  match step, reply with
  | .register tickerId symbol _, .ok _ => [registration tickerId symbol]
  | _, _ => []

def strays (before : Pipeline) (step : Step) : List LogRecord :=
  (step.tick?.filter before.isUnknown).toList.map warning

def published (after : Pipeline) : Except Fault Reply → List LogRecord
  | .ok (.message (some m)) => [publication after m]
  | _ => []

def due (before after : Pipeline) (step : Step) (reply : Except Fault Reply) : List LogRecord :=
  registered step reply ++ strays before step ++ published after reply

/-- What all steps owe to the log, each by what its caller saw of it. -/
def trail (clock : Clock) (session : Session) : List Step → List LogRecord
  | [] => []
  | step :: rest =>
    let (next, reply) := session.perform clock step
    due session.pipeline next.pipeline step reply ++ next.trail clock rest

theorem name_logger_book : (logger .book).name = Text.ofString "state_aggregator.app" := by decide

theorem name_logger_pipeline :
    (logger .pipeline).name = Text.ofString "snapshot_pipeline.app" := by decide

theorem record_registered (tickerId symbol : Value) :
    record (Note.registered tickerId symbol) = registration tickerId symbol := by
  unfold record registration
  rw [← name_logger_book]
  rfl

theorem record_unknownTicker (u : TickUpdate) : record (Note.unknownTicker u) = warning u := by
  unfold record warning
  rw [← name_logger_book]
  rfl

theorem record_emitted {after : Pipeline} {s : InstrumentState} {m : SnapshotMessage}
    (same : m.symbol = s.symbol) (stored : after.book.state? m.symbol = some s) :
    record (Note.emitted s m) = publication after m := by
  unfold record publication
  rw [← name_logger_pipeline, stored, same, Option.elim_some, prices, ← List.append_assoc]
  rfl

theorem strays_tick (before : Pipeline) {step : Step} {u : TickUpdate}
    (tick : step.tick? = some u) :
    strays before step = if before.isUnknown u then [warning u] else [] := by
  unfold strays
  rw [tick, Option.filter_some]
  split <;> rfl

theorem map_record_apply (pipeline : Pipeline) {step : Step} {u : TickUpdate}
    (tick : step.tick? = some u) : (pipeline.apply u).notes.map record = strays pipeline step := by
  rw [strays_tick pipeline tick, Pipeline.apply_notes]
  split
  · exact congrArg ([·]) (record_unknownTicker u)
  · rfl

theorem map_record_announced {pipeline : Pipeline} (labelled : pipeline.book.Labelled)
    (u : TickUpdate) :
    (Pipeline.announced (pipeline.book.apply u).2 (pipeline.process u).outcome).map record =
      published (pipeline.process u).pipeline
        (((pipeline.process u).outcome.map .message).mapError .failed) := by
  rcases outcome : (pipeline.process u).outcome with e | _ | m
  · cases (pipeline.book.apply u).2 <;> rfl
  · cases (pipeline.book.apply u).2 <;> rfl
  · obtain ⟨s, merged, same, stored⟩ := Pipeline.state_of_message labelled outcome
    rw [merged]
    exact congrArg ([·]) (record_emitted same stored)

/-- What a pipeline does alone at a step. At an idle step it stays as it is and owes nothing. -/
inductive Answered (pipeline : Pipeline) : Step → Pipeline.Step Reply → Prop where
  | register (tickerId symbol conId : Value) :
    Answered pipeline (.register tickerId symbol conId)
      ((pipeline.register tickerId symbol conId).map fun _ => .done)
  | apply {fields : Table Text Value} {u : TickUpdate} (tick : (Step.apply fields).tick? = some u) :
    Answered pipeline (.apply fields) ((pipeline.apply u).map .state)
  | process {fields : Table Text Value} {u : TickUpdate}
    (tick : (Step.process fields).tick? = some u) :
    Answered pipeline (.process fields) ((pipeline.process u).map .message)
  | idle {step : Step} {outcome : Except Pipeline.Failure Reply}
    (nothing : due pipeline pipeline step (outcome.mapError .failed) = []) :
    Answered pipeline step ⟨pipeline, outcome, []⟩

theorem answered (pipeline : Pipeline) (step : Step) :
    Answered pipeline step (answer pipeline step) := by
  cases step with
  | register tickerId symbol conId => exact .register tickerId symbol conId
  | apply fields =>
    dsimp only [answer]
    cases read : TickUpdate.readNamed fields with
    | error r =>
      have tick : (Step.apply fields).tick? = none := by rw [Step.tick?, read]; rfl
      exact .idle (by rw [due, strays, tick]; rfl)
    | ok u => exact .apply (by rw [Step.tick?, read]; rfl)
  | process fields =>
    dsimp only [answer]
    cases read : TickUpdate.readNamed fields with
    | error r =>
      have tick : (Step.process fields).tick? = none := by rw [Step.tick?, read]; rfl
      exact .idle (by rw [due, strays, tick]; rfl)
    | ok u => exact .process (by rw [Step.tick?, read]; rfl)
  | get symbol =>
    refine .idle ?_
    cases pipeline.state symbol <;> rfl
  | snapshots => exact .idle rfl

section Answer

variable {pipeline : Pipeline} {step : Step} {done : Pipeline.Step Reply}

theorem Answered.labelled (answered : Answered pipeline step done)
    (labelled : pipeline.book.Labelled) : done.pipeline.book.Labelled := by
  cases answered with
  | register tickerId symbol conId =>
    show (pipeline.register tickerId symbol conId).pipeline.book.Labelled
    rw [Pipeline.book_register]
    exact labelled.register tickerId symbol conId
  | @apply _ u =>
    show (pipeline.apply u).pipeline.book.Labelled
    rw [Pipeline.book_apply]
    exact labelled.apply u
  | @process _ u =>
    show (pipeline.process u).pipeline.book.Labelled
    rw [Pipeline.process_pipeline]
    exact labelled.apply u
  | idle => exact labelled

theorem Answered.records (answered : Answered pipeline step done)
    (labelled : pipeline.book.Labelled) :
    done.notes.map record =
      due pipeline done.pipeline step (done.outcome.mapError .failed) := by
  cases answered with
  | register tickerId symbol conId =>
    dsimp only [Pipeline.Step.map]
    rw [Pipeline.register_notes]
    cases (pipeline.register tickerId symbol conId).outcome with
    | error e => rfl
    | ok _ => exact congrArg ([·]) (record_registered tickerId symbol)
  | @apply _ u tick =>
    have no_message : published (pipeline.apply u).pipeline
        (((pipeline.apply u).outcome.map .state).mapError .failed) = [] := by
      cases (pipeline.apply u).outcome <;> rfl
    dsimp only [Pipeline.Step.map]
    rw [due, no_message, map_record_apply pipeline tick, List.append_nil]
    rfl
  | @process _ u tick =>
    dsimp only [Pipeline.Step.map]
    rw [due, Pipeline.process_notes, List.map_append, map_record_apply pipeline tick,
      map_record_announced labelled]
    rfl
  | idle nothing => exact nothing.symm

theorem Answered.counters (answered : Answered pipeline step done)
    (counting : ∀ fields, step ≠ .apply fields) :
    done.pipeline.counters.dropped = pipeline.counters.dropped +
        done.notes.countP (·.severity = .warning) ∧
      done.pipeline.counters.emitted = pipeline.counters.emitted +
        done.notes.countP (·.origin = .pipeline) := by
  cases answered with
  | register tickerId symbol conId =>
    dsimp only [Pipeline.Step.map]
    rw [Pipeline.register_notes, Pipeline.book_register]
    cases (pipeline.register tickerId symbol conId).outcome <;> exact ⟨rfl, rfl⟩
  | apply => exact absurd rfl (counting _)
  | @process _ u =>
    obtain ⟨warned, told⟩ := pipeline.countP_process_notes u
    dsimp only [Pipeline.Step.map]
    rw [Pipeline.counters_process, warned, told]
    exact ⟨rfl, rfl⟩
  | idle => exact ⟨rfl, rfl⟩

end Answer

section Trail

variable (clock : Clock)

theorem trail_eq {session : Session} (voiced : Voiced session.journal)
    (labelled : session.pipeline.book.Labelled) (steps : List Step) :
    session.trail clock steps = (notes session.pipeline steps).map record := by
  induction steps generalizing session with
  | nil => rfl
  | cons step rest ih =>
    -- Voiced handles and labelled states are what a step leaves to the next one.
    have done := answered session.pipeline step
    have later := ih (voiced.take clock (answer session.pipeline step)) (done.labelled labelled)
    rw [trail, perform_eq clock voiced, notes, List.map_append, done.records labelled]
    exact congrArg _ later

theorem counters_run {session : Session} (voiced : Voiced session.journal) {steps : List Step}
    (counting : ∀ fields, .apply fields ∉ steps) :
    (session.run clock steps).pipeline.counters.dropped = session.pipeline.counters.dropped +
        (notes session.pipeline steps).countP (·.severity = .warning) ∧
      (session.run clock steps).pipeline.counters.emitted = session.pipeline.counters.emitted +
        (notes session.pipeline steps).countP (·.origin = .pipeline) := by
  induction steps generalizing session with
  | nil => exact ⟨rfl, rfl⟩
  | cons step rest ih =>
    have here : ∀ fields, step ≠ .apply fields := fun fields same =>
      counting fields (same ▸ List.mem_cons_self)
    have there : ∀ fields, .apply fields ∉ rest := fun fields member =>
      counting fields (List.mem_cons_of_mem _ member)
    obtain ⟨dropped, emitted⟩ := (answered session.pipeline step).counters here
    have later := ih (voiced.take clock (answer session.pipeline step)) there
    have taken : (session.take clock (answer session.pipeline step)).pipeline =
        (answer session.pipeline step).pipeline := rfl
    rw [taken, dropped, emitted, Nat.add_assoc, Nat.add_assoc] at later
    rw [run, List.foldl_cons, perform_eq clock voiced, notes, List.countP_append,
      List.countP_append]
    exact later

theorem logger_record_eq_iff (note : Note) :
    (record note).logger = Text.ofString "snapshot_pipeline.app" ↔ note.origin = .pipeline := by
  have name : (record note).logger = (logger note.origin).name := rfl
  rw [name]
  cases note.origin <;> decide

def listeners (registry : Registry) (record : LogRecord) : List Nat :=
  registry.sinks (.named record.logger)

theorem listeners_record (registry : Registry) (note : Note) :
    listeners registry (record note) = registry.sinks (logger note.origin) := by
  have own : LoggerId.named (record note).logger = logger note.origin := by
    show LoggerId.named (logger note.origin).name = _
    cases note.origin <;> rfl
  rw [listeners, own]

section Loud

variable {session : Session} (voiced : Voiced session.journal)
  (labelled : session.pipeline.book.Labelled)
  (upToDate : ∀ origin, session.journal.UpToDate (logger origin))
  (loud : ∀ origin, session.journal.registry.effectiveLevel (logger origin) ≤ Severity.debug.rank)

include voiced labelled

include upToDate loud in
theorem arrivals_trail (steps : List Step) :
    (session.run clock steps).journal.arrivals = session.journal.arrivals ++
      (session.trail clock steps).flatMap fun record =>
        (listeners session.journal.registry record).map (·, record) := by
  have all : (notes session.pipeline steps).filter (heard session.journal.passes) =
      notes session.pipeline steps := by
    refine List.filter_eq_self.mpr fun note _ => ?_
    rw [heard, upToDate]
    exact decide_eq_true ((loud note.origin).trans (debug_rank_le note.severity))
  rw [arrivals_run clock voiced, all, trail_eq clock voiced labelled, List.flatMap_map]
  simp only [listeners_record]
  rfl

include upToDate loud in
theorem records_trail
    (single : ∀ origin, (session.journal.registry.sinks (logger origin)).length = 1)
    (steps : List Step) :
    (session.run clock steps).records = session.records ++ session.trail clock steps := by
  have once (note : Note) :
      ((listeners session.journal.registry (record note)).map (·, record note)).map Prod.snd =
        [record note] := by
    obtain ⟨i, only⟩ := List.length_eq_one_iff.mp (single note.origin)
    rw [listeners_record, only]
    rfl
  rw [records_eq, records_eq, arrivals_trail clock voiced labelled upToDate loud, List.map_append,
    trail_eq clock voiced labelled, List.flatMap_map, List.map_flatMap]
  simp only [once, ← List.map_eq_flatMap]

theorem counters_trail {steps : List Step} (counting : ∀ fields, .apply fields ∉ steps) :
    (session.run clock steps).pipeline.counters.dropped = session.pipeline.counters.dropped +
        (session.trail clock steps).countP (·.severity = .warning) ∧
      (session.run clock steps).pipeline.counters.emitted = session.pipeline.counters.emitted +
        (session.trail clock steps).countP (·.logger = Text.ofString "snapshot_pipeline.app") := by
  have messages : (notes session.pipeline steps).countP (·.origin = .pipeline) =
      (notes session.pipeline steps).countP fun note =>
        (record note).logger = Text.ofString "snapshot_pipeline.app" := by
    refine List.countP_congr fun note _ => ?_
    simp only [decide_eq_true_eq]
    exact (logger_record_eq_iff note).symm
  obtain ⟨dropped, emitted⟩ := counters_run clock voiced counting
  rw [dropped, emitted, messages, trail_eq clock voiced labelled, List.countP_map, List.countP_map]
  exact ⟨rfl, rfl⟩

end Loud

end Trail

def amid (session : Session) (settings : LoggingSettings) (others : List Journal.Step) : Session :=
  ⟨session.pipeline, Journal.resume settings session.journal others⟩

theorem Voiced.resume {journal : Journal} (voiced : Voiced journal) (settings : LoggingSettings)
    {others : List Journal.Step}
    (plain : ∀ origin, Journal.contextOf (Journal.additions (handleOf origin) others) = []) :
    Voiced (Journal.resume settings journal others) := by
  refine ⟨fun origin => ?_⟩
  obtain ⟨handle, made, own, component, fresh⟩ := voiced.handle origin
  exact ⟨_, Journal.handle_resume settings made fresh others, own, component, plain origin⟩

theorem upToDate_amid {tree : FileTree} {settings : Settings} {today : Date}
    {withTime channelPrefix : Value} {opened : Session}
    (started : start tree settings today withTime channelPrefix = .ok opened)
    {others : List Journal.Step} (voiced : Voiced (opened.amid settings.logging others).journal) :
    ∀ origin, (opened.amid settings.logging others).journal.UpToDate (logger origin) := by
  have journal := eq_run_of_openJournal (parts_of_start started).2
  have all : (opened.amid settings.logging others).journal =
      Journal.run settings.logging tree (opening today ++ others) := by
    unfold amid Journal.resume
    rw [journal, Journal.run, Journal.run, List.foldl_append]
  rw [all] at voiced ⊢
  exact voiced.upToDate

structure Audits (clock : Clock) (session : Session) (steps : List Step) : Prop where
  /-- Each record of the trail is delivered to all that listen to its logger, in the order of the
  trail, and nothing else is delivered. -/
  arrivals : (session.run clock steps).journal.arrivals = session.journal.arrivals ++
    (session.trail clock steps).flatMap fun record =>
      (listeners session.journal.registry record).map (·, record)
  records : (∀ origin, (session.journal.registry.sinks (logger origin)).length = 1) →
    (session.run clock steps).records = session.records ++ session.trail clock steps
  /-- If no tick is merged past the pipeline, the warnings are as many as the ticks that were
  dropped. -/
  dropped : (∀ fields, .apply fields ∉ steps) →
    (session.trail clock steps).countP (·.severity = .warning) =
      (session.run clock steps).pipeline.counters.dropped
  emitted : (∀ fields, .apply fields ∉ steps) →
    (session.trail clock steps).countP (·.logger = Text.ofString "snapshot_pipeline.app") =
      (session.run clock steps).pipeline.counters.emitted

/-- Others may have used the journal before in any way, as long as they left no context on the
handles of the parts. -/
theorem log_audits_run {tree : FileTree} {settings : Settings} {today : Date}
    {withTime channelPrefix : Value} {opened : Session}
    (started : start tree settings today withTime channelPrefix = .ok opened)
    {others : List Journal.Step}
    (plain : ∀ origin, Journal.contextOf (Journal.additions (handleOf origin) others) = [])
    (loud : ∀ origin, (opened.amid settings.logging others).journal.registry.effectiveLevel
      (logger origin) ≤ Severity.debug.rank) (clock : Clock) (steps : List Step) :
    Audits clock (opened.amid settings.logging others) steps := by
  obtain ⟨pipeline, journal⟩ := parts_of_start started
  obtain ⟨_, _, _, ready⟩ := ready_of_openJournal journal
  have voiced : Voiced (opened.amid settings.logging others).journal :=
    ready.toVoiced.resume settings.logging plain
  have upToDate := upToDate_amid started voiced
  have fresh : (opened.amid settings.logging others).pipeline =
      Pipeline.new settings.serializer withTime channelPrefix := pipeline
  generalize opened.amid settings.logging others = session at *
  have labelled : session.pipeline.book.Labelled := by
    rw [fresh]
    intro symbol s stored
    cases stored
  have uncounted : session.pipeline.counters = ⟨0, 0, 0⟩ := by
    rw [fresh]
    rfl
  refine ⟨arrivals_trail clock voiced labelled upToDate loud steps,
    fun single => records_trail clock voiced labelled upToDate loud single steps,
    fun counting => ?_, fun counting => ?_⟩
  · rw [(counters_trail clock voiced labelled counting).1, uncounted, Nat.zero_add]
  · rw [(counters_trail clock voiced labelled counting).2, uncounted, Nat.zero_add]

def reopened : List Journal.Step :=
  let request (origin : Origin) (level : Value) : Journal.Step :=
    .request ⟨2024, 1, 2⟩ (("level", level) :: arguments origin)
  [.setContext 0 [("ticker_id", .int 0)], request .book (.int 5),
    request .pipeline (.string "DEBUG"), .clearContext 0]

def auditedSteps : List Step :=
  let tick (tickerId : Int) (side : String) : Step :=
    .process [("ticker_id", .int tickerId), ("type", .string side), ("bid_price", .int 2)]
  [.register (.int 1) (.string "A") (.int 7), tick 1 "bid_ask", tick 1 "all_last",
    tick 9 "bid_ask", .register (.int 2) (.string "B") (.int 9223372036854775808),
    tick 2 "bid_ask", .register (.int 3) .null (.int 7), tick 3 "all_last",
    .register (.int longId) (.string "A") (.int 0), .process [("ticker_id", .int 1)]]

def auditedLog : List (Text × Severity × Text) :=
  [("state_aggregator.app", .debug, "Ticker registered: 1 -> A"),
    ("snapshot_pipeline.app", .debug, "Snapshot ready: A | Bid: 2.0 | Ask: 0.0 | Last: 0.0"),
    ("state_aggregator.app", .warning, "Unknown tickerId: 9, dropping bid_ask update"),
    ("state_aggregator.app", .warning, "Unknown tickerId: 3, dropping all_last update")]

theorem log_audits_run_reopened :
    ∃ opened, start .bare (settingsAt "warn") ⟨2024, 1, 2⟩ .null .null = .ok opened ∧
      let session := opened.amid (settingsAt "warn").logging reopened
      (session.run still auditedSteps).records.map
        (fun record => (record.logger, record.severity, record.message.display)) = auditedLog ∧
      (session.run still auditedSteps).pipeline.counters.dropped = 2 ∧
      (session.run still auditedSteps).pipeline.counters.emitted = 1 := by
  have opens : (start .bare (settingsAt "warn") ⟨2024, 1, 2⟩ .null .null).isOk = true := by
    decide +kernel
  have heard (origin : Origin) :
      ((start .bare (settingsAt "warn") ⟨2024, 1, 2⟩ .null .null).map fun opened =>
        let registry := (opened.amid (settingsAt "warn").logging reopened).journal.registry
        (decide (registry.effectiveLevel (logger origin) ≤ Severity.debug.rank),
          (registry.sinks (logger origin)).length)).toOption = some (true, 1) := by
    cases origin <;> decide +kernel
  have silent : ((start .bare (settingsAt "warn") ⟨2024, 1, 2⟩ .null .null).map fun opened =>
      (opened.amid (settingsAt "warn").logging reopened).journal.deliveries.length).toOption =
      some 0 := by
    decide +kernel
  have told : ((start .bare (settingsAt "warn") ⟨2024, 1, 2⟩ .null .null).map fun opened =>
      ((opened.amid (settingsAt "warn").logging reopened).trail still auditedSteps).map
        fun record => (record.logger, record.severity, record.message.display)).toOption =
      some auditedLog := by
    decide +kernel
  obtain ⟨opened, started⟩ := exists_of_isOk opens
  rw [started] at silent told
  have plain : ∀ origin, Journal.contextOf (Journal.additions (handleOf origin) reopened) = [] := by
    intro origin
    cases origin <;> rfl
  have each (origin : Origin) := Prod.mk.inj (Option.some.inj (started ▸ heard origin))
  have audits := log_audits_run started plain (fun origin => of_decide_eq_true (each origin).1)
    still auditedSteps
  have no_record := List.length_eq_zero_iff.mp (Option.some.inj silent)
  have lines := Option.some.inj told
  have counting : ∀ fields, .apply fields ∉ auditedSteps := by simp [auditedSteps]
  refine ⟨opened, started, ?_, ?_, ?_⟩
  · rw [audits.records fun origin => (each origin).2, records, no_record, List.map_nil,
      List.nil_append]
    exact lines
  · have warnings : auditedLog.countP (·.2.1 = .warning) = 2 := by decide
    rw [← audits.dropped counting, ← warnings, ← lines, List.countP_map]
    rfl
  · have messages : auditedLog.countP (·.1 = Text.ofString "snapshot_pipeline.app") = 1 := by decide
    rw [← audits.emitted counting, ← messages, ← lines, List.countP_map]
    rfl

end Session

end MarketSnapshot
