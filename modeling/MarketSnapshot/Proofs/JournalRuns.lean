import Mathlib.Data.List.Induction
import Mathlib.Data.List.Nodup
import MarketSnapshot.Journal.Request
import MarketSnapshot.Proofs.LoggerTree

namespace MarketSnapshot

/-- A request that got as far as to set the level of its logger. -/
structure Opening where
  logger : LoggerId
  level : Int
  /-- The handle that was made, unless the request failed after all. -/
  handle : Option Nat
deriving DecidableEq

namespace Journal

inductive Step where
  | request (today : Date) (arguments : Entries)
  | log (handle : Nat) (severity : Severity) (message : Value) (arguments : Entries)
    (around : Surroundings)
  | setContext (handle : Nat) (more : Entries)
  | clearContext (handle : Nat)

def perform (settings : LoggingSettings) (journal : Journal) : Step → Journal
  | .request today arguments => (journal.request settings today arguments).1
  | .log i severity message arguments around =>
    match journal.handles[i]? with
    | none => journal
    | some handle => (journal.log handle severity message arguments around).1
  | .setContext i more => (journal.setContext i more).toOption.getD journal
  | .clearContext i => journal.clearContext i

def run (settings : LoggingSettings) (tree : FileTree) (steps : List Step) : Journal :=
  steps.foldl (perform settings) (initial tree)

def collect {α : Type} (f : List Step → Step → Option α) (past : List Step) : List Step → List α
  | [] => []
  | step :: rest => (f past step).toList ++ collect f (past ++ [step]) rest

def asked? : Step → Option LoggerId
  | .request _ arguments =>
    match LogRequest.read arguments with
    | .error _ => none
    | .ok request => request.logger.toOption
  | _ => none

def opening? (settings : LoggingSettings) (journal : Journal) : Step → Option Opening
  | .request today arguments =>
    match LogRequest.read arguments with
    | .error _ => none
    | .ok request =>
      match request.logger, Level.read (request.effectiveLevel settings) with
      | .ok id, .ok level =>
        let made := (journal.request settings today arguments).2.toOption
        some ⟨id, level, made.map fun _ => journal.handles.length⟩
      | _, _ => none
  | _ => none

end Journal

/-- What is known of the loggers: the names in the order in which they were first asked for, and the
openings, the oldest first. -/
structure Ledger where
  names : List Text
  openings : List Opening

namespace Ledger

def add (ledger : Ledger) (asked : Option LoggerId) (opening : Option Opening) : Ledger where
  names := asked.elim ledger.names (Registry.enter ledger.names)
  openings := ledger.openings ++ opening.toList

def last? (ledger : Ledger) (id : LoggerId) : Option Opening :=
  (ledger.openings.filter (·.logger = id)).getLast?

def startLevel : LoggerId → Int
  | .root => Severity.warning.rank
  | .named _ => 0

def level (ledger : Ledger) (id : LoggerId) : Int :=
  (ledger.last? id).elim (startLevel id) Opening.level

def holder (ledger : Ledger) (id : LoggerId) : Option Nat := (ledger.last? id).bind Opening.handle

def effectiveLevel (ledger : Ledger) (id : LoggerId) : Int :=
  (((Registry.ancestry ledger.names id).map ledger.level).find? (· ≠ 0)).getD 0

def reached (ledger : Ledger) (id : LoggerId) : List Nat :=
  (Registry.ancestry ledger.names id).filterMap ledger.holder

end Ledger

namespace Journal

def ledger (settings : LoggingSettings) (tree : FileTree) (steps : List Step) : Ledger where
  names := (steps.filterMap asked?).foldl Registry.enter []
  openings := collect (fun past => opening? settings (run settings tree past)) [] steps

theorem run_append_singleton (settings : LoggingSettings) (tree : FileTree) (past : List Step)
    (step : Step) :
    run settings tree (past ++ [step]) = perform settings (run settings tree past) step := by
  simp [run, List.foldl_append]

theorem collect_append {α : Type} (f : List Step → Step → Option α)
    (past steps rest : List Step) :
    collect f past (steps ++ rest) = collect f past steps ++ collect f (past ++ steps) rest := by
  induction steps generalizing past with
  | nil => simp [collect]
  | cons first steps ih => simp [collect, ih]

theorem collect_append_singleton {α : Type} (f : List Step → Step → Option α)
    (steps : List Step) (step : Step) :
    collect f [] (steps ++ [step]) = collect f [] steps ++ (f steps step).toList := by
  rw [collect_append]
  simp [collect]

theorem ledger_append_singleton (settings : LoggingSettings) (tree : FileTree) (past : List Step)
    (step : Step) :
    ledger settings tree (past ++ [step]) = (ledger settings tree past).add (asked? step)
      (opening? settings (run settings tree past) step) := by
  unfold ledger Ledger.add
  rw [collect_append_singleton, List.filterMap_append, List.foldl_append]
  cases asked : asked? step <;> simp [asked]

end Journal

namespace Ledger

@[simp] theorem add_none (ledger : Ledger) : ledger.add none none = ledger := by
  simp [add]

theorem last?_add (ledger : Ledger) (asked : Option LoggerId) (opening : Opening) (id : LoggerId) :
    (ledger.add asked (some opening)).last? id =
      if opening.logger = id then some opening else ledger.last? id := by
  unfold last? add
  rw [Option.toList_some, List.filter_append, List.filter_singleton]
  by_cases same : opening.logger = id <;> simp [same]

theorem last?_add_none (ledger : Ledger) (asked : Option LoggerId) (id : LoggerId) :
    (ledger.add asked none).last? id = ledger.last? id := by
  simp [last?, add]

def facts (ledger : Ledger) (id : LoggerId) : Int × Option Nat :=
  (ledger.level id, ledger.holder id)

theorem facts_add (ledger : Ledger) (asked : Option LoggerId) (opening : Opening) (id : LoggerId) :
    (ledger.add asked (some opening)).facts id =
      if opening.logger = id then (opening.level, opening.handle) else ledger.facts id := by
  unfold facts level holder
  rw [last?_add]
  split <;> rfl

theorem holder_add (ledger : Ledger) (asked : Option LoggerId) (opening : Opening) (id : LoggerId) :
    (ledger.add asked (some opening)).holder id =
      if opening.logger = id then opening.handle else ledger.holder id := by
  unfold holder
  rw [last?_add]
  split <;> rfl

theorem holder_add_none (ledger : Ledger) (asked : Option LoggerId) (id : LoggerId) :
    (ledger.add asked none).holder id = ledger.holder id := by
  unfold holder
  rw [last?_add_none]

theorem facts_add_none (ledger : Ledger) (asked : Option LoggerId) (id : LoggerId) :
    (ledger.add asked none).facts id = ledger.facts id := by
  unfold facts level
  rw [last?_add_none, holder_add_none]

end Ledger

theorem LoggerId.name_ne_nil_of_ofName (name : Text) : (LoggerId.ofName name).name ≠ [] := by
  unfold LoggerId.ofName
  split
  · decide
  · rename_i other
    exact fun empty => other (.inl empty)

theorem LogRequest.name_ne_nil {request : LogRequest} {id : LoggerId}
    (found : request.logger = .ok id) : id.name ≠ [] := by
  unfold LogRequest.logger LogRequest.loggerId? at found
  split at found
  · cases found
  · split at found
    · cases found
    · rename_i known
      cases found
      split at known
      · split at known
        · cases known
          exact LoggerId.name_ne_nil_of_ofName _
        · cases known
      · cases known
        decide

def RequestError.isLate : RequestError → Bool
  | .file _ | .rotation _ => true
  | _ => false

def Registry.opened (registry : Registry) (id : LoggerId) (level : Int) : Registry :=
  ((registry.enrol id).setLevel id level).setSink id none

namespace Journal

inductive Requested (journal : Journal) : Option LoggerId → Option Opening → Journal → Prop where
  | unnamed : Requested journal none none journal
  | levelRefused (id : LoggerId) (named : id.name ≠ []) :
    Requested journal (some id) none { journal with registry := journal.registry.enrol id }
  | failed (id : LoggerId) (named : id.name ≠ []) (level : Int) (tree : FileTree) :
    Requested journal (some id) (some ⟨id, level, none⟩)
      { journal with
        registry := journal.registry.opened id level
        tree := tree
        decided := [] }
  | made (handle : LogHandle) (named : handle.logger.name ≠ [])
    (file : handle.file.isSome = handle.toFile.isTrue) (level : Int) (tree : FileTree) :
    Requested journal (some handle.logger)
      (some ⟨handle.logger, level, some journal.handles.length⟩)
      (attach { journal with
        registry := journal.registry.opened handle.logger level
        tree := tree
        decided := [] } handle)

theorem openLog_eq (journal : Journal) (request : LogRequest) (settings : LoggingSettings)
    (today : Date) :
    ∃ tree result,
      journal.openLog request settings today = ({ journal with tree := tree }, result) ∧
      (∀ file, result = .ok file → file.isSome = (request.effectiveToFile settings).isTrue) ∧
      ∀ e, result = .error e → e.isLate = true := by
  unfold openLog
  split
  · rename_i wanted
    split
    · refine ⟨journal.tree, _, rfl, nofun, ?_⟩
      rintro e ⟨⟩
      rfl
    · split
      · refine ⟨_, _, rfl, nofun, ?_⟩
        rintro e ⟨⟩
        rfl
      · split
        · refine ⟨_, _, rfl, nofun, ?_⟩
          rintro e ⟨⟩
          rfl
        · refine ⟨_, _, rfl, ?_, nofun⟩
          rintro file ⟨⟩
          exact wanted.symm
  · rename_i unwanted
    refine ⟨journal.tree, _, rfl, ?_, nofun⟩
    rintro file ⟨⟩
    exact (Bool.eq_false_iff.mpr unwanted).symm

inductive Carried (journal : Journal) (request : LogRequest) (settings : LoggingSettings)
    (today : Date) : Journal → Except RequestError LogHandle → Prop where
  | nameRefused (e : RequestError) (unnamed : request.logger = .error e)
    (early : e.isLate = false) : Carried journal request settings today journal (.error e)
  | levelRefused (id : LoggerId) (named : request.logger = .ok id)
    (e : LevelError) (refused : Level.read (request.effectiveLevel settings) = .error e) :
    Carried journal request settings today { journal with registry := journal.registry.enrol id }
      (.error (.level e))
  | fileRefused (id : LoggerId) (named : request.logger = .ok id)
    (level : Int) (accepted : Level.read (request.effectiveLevel settings) = .ok level)
    (e : RequestError) (late : e.isLate = true) (tree : FileTree) :
    Carried journal request settings today
      { journal with
        registry := journal.registry.opened id level
        tree := tree
        decided := [] } (.error e)
  | made (id : LoggerId) (named : request.logger = .ok id)
    (level : Int) (accepted : Level.read (request.effectiveLevel settings) = .ok level)
    (file : Option Place) (wanted : file.isSome = (request.effectiveToFile settings).isTrue)
    (tree : FileTree) :
    Carried journal request settings today
      (attach { journal with
        registry := journal.registry.opened id level
        tree := tree
        decided := [] } (request.handle settings today id file))
      (.ok (request.handle settings today id file))

theorem LogRequest.early_of_logger {request : LogRequest} {e : RequestError}
    (refused : request.logger = .error e) : e.isLate = false := by
  unfold LogRequest.logger at refused
  split at refused
  · cases refused
    rfl
  · split at refused
    · cases refused
      rfl
    · cases refused

theorem carried (journal : Journal) (request : LogRequest) (settings : LoggingSettings)
    (today : Date) :
    Carried journal request settings today (journal.carryOut request settings today).1
      (journal.carryOut request settings today).2 := by
  unfold carryOut
  cases named : request.logger with
  | error e => exact .nameRefused e named (LogRequest.early_of_logger named)
  | ok id =>
    dsimp only
    cases read : Level.read (request.effectiveLevel settings) with
    | error e => exact .levelRefused id named e read
    | ok level =>
      obtain ⟨tree, result, opened, wanted, late⟩ := openLog_eq
        { journal with registry := journal.registry.opened id level, decided := [] } request
        settings today
      simp only [Registry.opened] at opened
      simp only [opened]
      cases result with
      | error e => exact .fileRefused id named level read e (late e rfl) tree
      | ok file => exact .made id named level read file (wanted file rfl) tree

theorem requested (journal : Journal) (settings : LoggingSettings) (today : Date)
    (arguments : Entries) :
    Requested journal (asked? (.request today arguments))
      (opening? settings journal (.request today arguments))
      (journal.request settings today arguments).1 := by
  simp only [asked?, opening?, Journal.request]
  cases LogRequest.read arguments with
  | error e => exact .unnamed
  | ok request =>
    dsimp only
    have carried := carried journal request settings today
    generalize journal.carryOut request settings today = done at *
    obtain ⟨next, result⟩ := done
    cases carried with
    | nameRefused e unnamed =>
      rw [unnamed]
      exact .unnamed
    | levelRefused id named e refused =>
      rw [named, refused]
      exact .levelRefused id (LogRequest.name_ne_nil named)
    | fileRefused id named level accepted e late tree =>
      rw [named, accepted]
      exact .failed id (LogRequest.name_ne_nil named) level tree
    | made id named level accepted file wanted tree =>
      rw [named, accepted]
      exact .made (request.handle settings today id file) (LogRequest.name_ne_nil named) wanted
        level tree

theorem Requested.deliveries {journal next : Journal} {asked : Option LoggerId}
    {opening : Option Opening} (requested : Requested journal asked opening next) :
    next.deliveries = journal.deliveries ∧ next.strays = journal.strays := by
  cases requested <;> exact ⟨rfl, rfl⟩

theorem Requested.handles {journal next : Journal} {asked : Option LoggerId}
    {opening : Option Opening} (requested : Requested journal asked opening next) :
    next.handles = journal.handles ∨
      ∃ handle, handle.file.isSome = handle.toFile.isTrue ∧
        next.handles = journal.handles ++ [handle] := by
  cases requested with
  | unnamed => exact .inl rfl
  | levelRefused => exact .inl rfl
  | failed => exact .inl rfl
  | made handle _ file => exact .inr ⟨handle, file, rfl⟩

def loggers (journal : Journal) : List LoggerId := journal.handles.map LogHandle.logger

structure Reflects (ledger : Ledger) (journal : Journal) : Prop where
  linked : Registry.Linked ledger.names journal.registry
  named : [] ∉ ledger.names
  facts : ∀ id, journal.registry.facts id = ledger.facts id
  entered : ∀ id ∈ journal.loggers, Registry.Entered ledger.names id
  held : ∀ id i, ledger.holder id = some i → journal.loggers[i]? = some id

theorem reflects_initial (tree : FileTree) : Reflects ⟨[], []⟩ (initial tree) where
  linked := Registry.linked_initial
  named := by simp
  facts id := by cases id <;> rfl
  entered id member := by cases member
  held id i held := by cases held

namespace Reflects

variable {ledger : Ledger} {journal next : Journal}

theorem of_same (reflects : Reflects ledger journal) (registry : next.registry = journal.registry)
    (loggers : next.loggers = journal.loggers) : Reflects ledger next := by
  obtain ⟨linked, named, facts, entered, held⟩ := reflects
  exact ⟨registry ▸ linked, named, registry ▸ facts, loggers ▸ entered, loggers ▸ held⟩

theorem named_enter (reflects : Reflects ledger journal) {id : LoggerId} (named : id.name ≠ []) :
    [] ∉ Registry.enter ledger.names id := by
  cases id with
  | root => exact reflects.named
  | named name =>
    have other : [] ≠ name := fun empty => named empty.symm
    simp only [Registry.enter]
    split
    · exact reflects.named
    · simp [reflects.named, other]

theorem entered_enter (reflects : Reflects ledger journal) (id : LoggerId) :
    ∀ other ∈ journal.loggers, Registry.Entered (Registry.enter ledger.names id) other :=
  fun other member => (reflects.entered other member).enter id

theorem linked_opened (reflects : Reflects ledger journal) (id : LoggerId) (level : Int) :
    Registry.Linked (Registry.enter ledger.names id) (journal.registry.opened id level) :=
  ((reflects.linked.enrol id).setLevel id level).setSink id none

theorem facts_opened (reflects : Reflects ledger journal) (id : LoggerId) (level : Int)
    (other : LoggerId) :
    (journal.registry.opened id level).facts other =
      if id = other then (level, none) else ledger.facts other := by
  have entered := Registry.entered_enter ledger.names id
  have linked := reflects.linked.enrol id
  unfold Registry.opened
  rw [Registry.facts_setSink (linked.setLevel id level) entered,
    Registry.facts_setLevel linked entered, Registry.facts_enrol, reflects.facts]
  split <;> rfl

theorem request (reflects : Reflects ledger journal) {asked : Option LoggerId}
    {opening : Option Opening} (requested : Requested journal asked opening next) :
    Reflects (ledger.add asked opening) next := by
  cases requested with
  | unnamed =>
    rw [Ledger.add_none]
    exact reflects
  | levelRefused id named =>
    constructor
    · exact reflects.linked.enrol id
    · exact reflects.named_enter named
    · intro other
      rw [Ledger.facts_add_none, ← reflects.facts other]
      exact Registry.facts_enrol _ id other
    · exact reflects.entered_enter id
    · intro other i held
      rw [Ledger.holder_add_none] at held
      exact reflects.held other i held
  | failed id named level tree =>
    constructor
    · exact reflects.linked_opened id level
    · exact reflects.named_enter named
    · intro other
      rw [Ledger.facts_add]
      exact reflects.facts_opened id level other
    · exact reflects.entered_enter id
    · intro other i held
      rw [Ledger.holder_add] at held
      split at held
      · cases held
      · exact reflects.held other i held
  | made handle named _ level tree =>
    have entered := Registry.entered_enter ledger.names handle.logger
    have linked := reflects.linked_opened handle.logger level
    constructor
    · exact linked.setSink handle.logger _
    · exact reflects.named_enter named
    · intro other
      rw [Ledger.facts_add]
      refine (Registry.facts_setSink linked entered _ other).trans ?_
      rw [reflects.facts_opened]
      split <;> rfl
    · intro other member
      simp only [loggers, attach, List.map_append, List.mem_append] at member
      rcases member with old | new
      · exact reflects.entered_enter _ other old
      · rw [List.mem_singleton.mp new]
        exact entered
    · intro other i held
      rw [Ledger.holder_add] at held
      simp only [loggers, attach, List.map_append]
      split at held
      · rename_i same
        cases held
        simpa using same
      · have old := reflects.held other i held
        have inside := (List.getElem?_eq_some_iff.mp old).1
        exact (List.getElem?_append_left inside).trans old

end Reflects

/-- A journal, and one that is told apart from it by some deliveries and strays alone. -/
structure Adds (before after : Journal) (deliveries : List Delivery) (strays : List LogRecord) :
    Prop where
  registry : after.registry = before.registry
  tree : after.tree = before.tree
  handles : after.handles = before.handles
  passes : after.passes = before.passes
  deliveries : after.deliveries = before.deliveries ++ deliveries
  strays : after.strays = before.strays ++ strays

theorem passes_remember (journal : Journal) (id : LoggerId) (severity : Severity) :
    (journal.remember id severity).passes = journal.passes := by
  funext other level
  by_cases same : (id, severity) = (other, level)
  · cases same
    simp [remember, passes]
  · simp [remember, passes, Table.find?_put_of_ne _ _ same]

theorem adds_remember (journal : Journal) (id : LoggerId) (severity : Severity) :
    Adds journal (journal.remember id severity) [] [] :=
  ⟨rfl, rfl, rfl, passes_remember journal id severity, (List.append_nil _).symm,
    (List.append_nil _).symm⟩

inductive Emitted (journal : Journal) (id : LoggerId) (record : LogRecord)
    (rotates : Nat → Option Int) : Journal → Except LogError Unit → Prop where
  | below (low : journal.passes id record.severity = false) :
    Emitted journal id record rotates (journal.remember id record.severity) (.ok ())
  | reserved (high : journal.passes id record.severity = true) (name : String)
    (clash : LogRecord.clash? record.extra = some name) :
    Emitted journal id record rotates (journal.remember id record.severity)
      (.error (.reserved name))
  | delivered (high : journal.passes id record.severity = true)
    (free : LogRecord.clash? record.extra = none) :
    Emitted journal id record rotates
      ((journal.remember id record.severity).deliver id record rotates) (.ok ())

theorem emitted (journal : Journal) (id : LoggerId) (record : LogRecord)
    (rotates : Nat → Option Int) :
    Emitted journal id record rotates (journal.emit id record rotates).1
      (journal.emit id record rotates).2 := by
  unfold emit
  dsimp only
  by_cases high : journal.passes id record.severity = true
  · rw [if_pos high]
    cases clash : LogRecord.clash? record.extra with
    | some name => exact .reserved high name clash
    | none => exact .delivered high clash
  · rw [if_neg high]
    exact .below (Bool.eq_false_iff.mpr high)

def sent (journal : Journal) (id : LoggerId) (record : LogRecord) (rotates : Nat → Option Int) :
    List Delivery :=
  (journal.registry.sinks id).map fun i => ⟨i, record, rotates i⟩

def strayed (journal : Journal) (id : LoggerId) (record : LogRecord) : List LogRecord :=
  if journal.registry.sinks id = [] ∧ Severity.warning.rank ≤ record.severity.rank then [record]
  else []

theorem adds_deliver (journal : Journal) (id : LoggerId) (record : LogRecord)
    (rotates : Nat → Option Int) :
    Adds journal (journal.deliver id record rotates) (journal.sent id record rotates)
      (journal.strayed id record) := ⟨rfl, rfl, rfl, rfl, rfl, rfl⟩

theorem Adds.trans {before between after : Journal} {first second : List Delivery}
    {lost more : List LogRecord} (left : Adds before between first lost)
    (right : Adds between after second more) :
    Adds before after (first ++ second) (lost ++ more) := by
  refine ⟨right.registry.trans left.registry, right.tree.trans left.tree,
    right.handles.trans left.handles, right.passes.trans left.passes, ?_, ?_⟩
  · rw [right.deliveries, left.deliveries, List.append_assoc]
  · rw [right.strays, left.strays, List.append_assoc]

theorem Emitted.adds {journal next : Journal} {id : LoggerId} {record : LogRecord}
    {rotates : Nat → Option Int} {result : Except LogError Unit}
    (emitted : Emitted journal id record rotates next result) :
    Adds journal next [] [] ∨
      Adds journal next (journal.sent id record rotates) (journal.strayed id record) := by
  cases emitted with
  | below => exact .inl (adds_remember journal id _)
  | reserved => exact .inl (adds_remember journal id _)
  | delivered =>
    exact .inr ((adds_remember journal id record.severity).trans (adds_deliver _ id record rotates))

theorem emit_of_free (journal : Journal) (id : LoggerId) {record : LogRecord}
    (free : LogRecord.clash? record.extra = none) (rotates : Nat → Option Int) :
    (journal.emit id record rotates).2 = .ok () ∧
      if journal.passes id record.severity then
        Adds journal (journal.emit id record rotates).1 (journal.sent id record rotates)
          (journal.strayed id record)
      else Adds journal (journal.emit id record rotates).1 [] [] := by
  have emitted := emitted journal id record rotates
  generalize journal.emit id record rotates = done at emitted ⊢
  obtain ⟨next, result⟩ := done
  cases emitted with
  | below low =>
    rw [if_neg (by simp [low])]
    exact ⟨rfl, adds_remember journal id record.severity⟩
  | reserved high name clash =>
    rw [free] at clash
    cases clash
  | delivered high =>
    rw [if_pos high]
    exact ⟨rfl, (adds_remember journal id record.severity).trans (adds_deliver _ id record rotates)⟩

theorem adds_log (journal : Journal) (handle : LogHandle) (severity : Severity) (message : Value)
    (arguments : Entries) (around : Surroundings) :
    ∃ (reached : List Nat) (strays : List LogRecord),
      strays <+: [handle.record severity message arguments around] ∧
      Adds journal (journal.log handle severity message arguments around).1
        (reached.map fun i =>
          ⟨i, handle.record severity message arguments around, around.rotates i⟩) strays := by
  unfold log
  split
  · exact ⟨[], [], List.nil_prefix, rfl, rfl, rfl, rfl, by simp, by simp⟩
  · rcases (emitted journal handle.logger (handle.record severity message arguments around)
      around.rotates).adds with nothing | added
    · exact ⟨[], [], List.nil_prefix, nothing⟩
    · refine ⟨_, _, ?_, added⟩
      unfold strayed
      split
      · exact List.prefix_rfl
      · exact List.nil_prefix

theorem map_modifyHandle {β : Type} (journal : Journal) (i : Nat) {f : LogHandle → LogHandle}
    {view : LogHandle → β} (keeps : ∀ handle, view (f handle) = view handle) :
    (journal.modifyHandle i f).handles.map view = journal.handles.map view := by
  apply List.ext_getElem?
  intro j
  simp only [modifyHandle, List.getElem?_map, List.getElem?_modify]
  cases journal.handles[j]? with
  | none => rfl
  | some handle => by_cases same : i = j <;> simp [same, keeps]

theorem perform_keeps {β : Type} (settings : LoggingSettings) (journal : Journal) {step : Step}
    (call : ∀ today arguments, step ≠ .request today arguments) (view : LogHandle → β)
    (keeps : ∀ handle context, view { handle with context := context } = view handle) :
    (perform settings journal step).registry = journal.registry ∧
      (perform settings journal step).passes = journal.passes ∧
      (perform settings journal step).handles.map view = journal.handles.map view := by
  cases step with
  | request today arguments => exact absurd rfl (call today arguments)
  | log i severity message arguments around =>
    unfold perform
    dsimp only
    split
    · exact ⟨rfl, rfl, rfl⟩
    · rename_i handle _
      obtain ⟨_, _, _, added⟩ := adds_log journal handle severity message arguments around
      exact ⟨added.registry, added.passes, congrArg (List.map view) added.handles⟩
  | setContext i more =>
    unfold perform setContext
    dsimp only
    split
    · exact ⟨rfl, rfl, rfl⟩
    · exact ⟨rfl, rfl, map_modifyHandle journal i fun handle => keeps handle _⟩
  | clearContext i => exact ⟨rfl, rfl, map_modifyHandle journal i fun handle => keeps handle _⟩

theorem request_or_call (step : Step) :
    (∃ today arguments, step = .request today arguments) ∨
    (∀ today arguments, step ≠ .request today arguments) ∧ asked? step = none ∧
      ∀ settings journal, opening? settings journal step = none := by
  cases step with
  | request today arguments => exact .inl ⟨today, arguments, rfl⟩
  | log => exact .inr ⟨nofun, rfl, fun _ _ => rfl⟩
  | setContext => exact .inr ⟨nofun, rfl, fun _ _ => rfl⟩
  | clearContext => exact .inr ⟨nofun, rfl, fun _ _ => rfl⟩

/-- At the end of every run the registry is as the ledger of the run tells. -/
theorem reflects_run (settings : LoggingSettings) (tree : FileTree) (steps : List Step) :
    Reflects (ledger settings tree steps) (run settings tree steps) := by
  -- Only requests are entered in the ledger, and only they touch what it tells.
  induction steps using List.reverseRecOn with
  | nil => exact reflects_initial tree
  | append_singleton past step ih =>
    rw [ledger_append_singleton, run_append_singleton]
    rcases request_or_call step with ⟨today, arguments, rfl⟩ | ⟨call, asks, opens⟩
    · exact ih.request (requested _ settings today arguments)
    · obtain ⟨registry, _, loggers⟩ :=
        perform_keeps settings (run settings tree past) call LogHandle.logger fun _ _ => rfl
      rw [asks, opens, Ledger.add_none]
      exact ih.of_same registry loggers

namespace Reflects

variable {ledger : Ledger} {journal : Journal}

theorem level (reflects : Reflects ledger journal) : journal.registry.level = ledger.level := by
  funext id
  exact congrArg Prod.fst (reflects.facts id)

theorem sink (reflects : Reflects ledger journal) : journal.registry.sink = ledger.holder := by
  funext id
  exact congrArg Prod.snd (reflects.facts id)

theorem effectiveLevel (reflects : Reflects ledger journal) {id : LoggerId}
    (made : id ∈ journal.loggers) :
    journal.registry.effectiveLevel id = ledger.effectiveLevel id := by
  unfold Registry.effectiveLevel Ledger.effectiveLevel
  rw [reflects.linked.lineage reflects.named (reflects.entered id made), reflects.level]

theorem sinks (reflects : Reflects ledger journal) {id : LoggerId} (made : id ∈ journal.loggers) :
    journal.registry.sinks id = ledger.reached id := by
  unfold Registry.sinks Ledger.reached
  rw [reflects.linked.lineage reflects.named (reflects.entered id made), reflects.sink]

theorem nodup_reached (reflects : Reflects ledger journal) (id : LoggerId) :
    (ledger.reached id).Nodup := by
  unfold Ledger.reached
  refine (Registry.nodup_ancestry ledger.names id).filterMap ?_
  -- A handle is on one logger only.
  intro first second i held_first held_second
  have left := reflects.held first i held_first
  have right := reflects.held second i held_second
  exact Option.some.inj (left.symm.trans right)

end Reflects

end Journal

end MarketSnapshot
