import MarketSnapshot.Proofs.HandleCalls

namespace MarketSnapshot

namespace Registry

theorem entered_of_mem_ancestry {names : List Text} {id outer : LoggerId}
    (entered : Entered names id) (member : outer ∈ ancestry names id) : Entered names outer := by
  fun_induction ancestry names id with
  | case1 =>
    rw [List.mem_singleton.mp member]
    exact True.intro
  | case2 name ih =>
    rcases List.mem_cons.mp member with rfl | member
    · exact entered
    · refine ih ?_ member
      cases parent : parentIn names name with
      | root => exact True.intro
      | named outer => exact (parentIn_eq_named parent).2

theorem ancestry_enter_of_not_mem {names : List Text} {new id : LoggerId}
    (joins : Joins names new id) (entered : Entered names id)
    (away : new ∉ ancestry (enter names new) id) :
    ancestry (enter names new) id = ancestry names id := by
  have same := ancestry_enter joins
  have keeps : ∀ {way : List LoggerId}, new ∉ way → way.filter (· ≠ new) = way := by
    intro way absent
    rw [List.filter_eq_self]
    exact fun other member => decide_eq_true (ne_of_mem_of_not_mem member absent)
  by_cases known : Entered names new
  · rw [enter_of_entered known]
  · have absent : new ∉ ancestry names id := fun member =>
      known (entered_of_mem_ancestry entered member)
    rwa [keeps away, keeps absent] at same

end Registry

def Ledger.cutOff (ledger : Ledger) (id : LoggerId) (level : Int) : Ledger :=
  ledger.add (some id) (some ⟨id, level, none⟩)

namespace Journal.Reflects

open Registry (Entered Joins ancestry enter)

variable {ledger : Ledger} {journal : Journal} (reflects : Reflects ledger journal)
  {id other : LoggerId}

include reflects

theorem holder_inj {i : Nat} (left : ledger.holder id = some i)
    (right : ledger.holder other = some i) : id = other :=
  Option.some.inj ((reflects.held id i left).symm.trans (reflects.held other i right))

theorem reached_cutOff (joins : Joins ledger.names id other) (level : Int) :
    (ledger.cutOff id level).reached other =
      (ledger.reached other).filter (ledger.holder id ≠ some ·) := by
  have holder (m : LoggerId) :
      (ledger.cutOff id level).holder m = if id = m then none else ledger.holder m :=
    Ledger.holder_add ledger (some id) _ m
  have kept (m : LoggerId) : (ledger.holder m).filter (ledger.holder id ≠ some ·) =
      (ledger.cutOff id level).holder m := by
    rw [holder]
    by_cases same : id = m
    · subst same
      cases ledger.holder id <;> simp
    · cases held : ledger.holder m with
      | none => simp
      | some i =>
        have different : ledger.holder id ≠ some i :=
          fun taken => same (reflects.holder_inj taken held)
        simp [same, different]
  have nothing : (ledger.cutOff id level).holder id = none := by rw [holder, if_pos rfl]
  -- No other logger holds the handle, so to drop it is to leave out the logger.
  unfold Ledger.reached
  rw [List.filter_filterMap, funext kept, ← filterMap_away nothing,
    ← filterMap_away nothing (ancestry ledger.names other)]
  exact congrArg _ (Registry.ancestry_enter joins)

end Journal.Reflects

namespace Ledger

open Registry (ancestry enter)

theorem effectiveLevel_cutOff (ledger : Ledger) (id other : LoggerId) (level : Int) :
    (ledger.cutOff id level).effectiveLevel other =
      (((ancestry (enter ledger.names id) other).map fun m =>
        if id = m then level else ledger.level m).find? (· ≠ 0)).getD 0 := by
  have levels :
      (ledger.cutOff id level).level = fun m => if id = m then level else ledger.level m := by
    funext m
    have facts := congrArg Prod.fst (facts_add ledger (some id) ⟨id, level, none⟩ m)
    rw [apply_ite Prod.fst] at facts
    exact facts
  unfold effectiveLevel
  rw [levels]
  rfl

theorem away_cutOff {ledger : Ledger} {id other : LoggerId}
    (joins : Registry.Joins ledger.names id other) (entered : Registry.Entered ledger.names other)
    (level : Int) (away : id ∉ ancestry (enter ledger.names id) other) :
    (ledger.cutOff id level).effectiveLevel other = ledger.effectiveLevel other ∧
      (ledger.cutOff id level).reached other = ledger.reached other := by
  have way := Registry.ancestry_enter_of_not_mem joins entered away
  rw [way] at away
  have others : ∀ m ∈ ancestry ledger.names other, id ≠ m :=
    fun m member => (ne_of_mem_of_not_mem member away).symm
  constructor
  · have levels : ∀ m ∈ ancestry ledger.names other,
        (if id = m then level else ledger.level m) = ledger.level m :=
      fun m member => if_neg (others m member)
    rw [effectiveLevel_cutOff, way, List.map_congr_left levels]
    rfl
  · have holders : ∀ m ∈ ancestry ledger.names other,
        (ledger.cutOff id level).holder m = ledger.holder m :=
      fun m member => (holder_add ledger (some id) _ m).trans (if_neg (others m member))
    unfold reached
    rw [← List.filterMap_congr holders]
    exact congrArg _ way

end Ledger

namespace Journal

inductive Failed (journal : Journal) :
    RequestError → Option LoggerId → Option Opening → Journal → Prop where
  | unnamed (e : RequestError) (early : e.isLate = false) : Failed journal e none none journal
  | levelRefused (e : LevelError) (id : LoggerId) :
    Failed journal (.level e) (some id) none
      { journal with registry := journal.registry.enrol id }
  | late (e : RequestError) (late : e.isLate = true) (id : LoggerId) (level : Int)
    (tree : FileTree) :
    Failed journal e (some id) (some ⟨id, level, none⟩)
      { journal with
        registry := journal.registry.opened id level
        tree := tree
        decided := [] }

theorem read_early {arguments : Entries} {e : RequestError}
    (refused : LogRequest.read arguments = .error e) : e.isLate = false := by
  unfold LogRequest.read at refused
  dsimp only at refused
  split at refused
  · cases refused
    rfl
  · split at refused
    · cases refused
      rfl
    · split at refused
      · cases refused
        rfl
      · cases refused
        rfl
      · cases refused

theorem failed_of_request {journal : Journal} {settings : LoggingSettings} {today : Date}
    {arguments : Entries} {e : RequestError}
    (failed : (journal.request settings today arguments).2 = .error e) :
    Failed journal e (asked? (.request today arguments))
      (opening? settings journal (.request today arguments))
      (journal.request settings today arguments).1 := by
  simp only [asked?, opening?, failed]
  unfold Journal.request at failed ⊢
  cases read : LogRequest.read arguments with
  | error refused =>
    rw [read] at failed
    cases failed
    exact .unnamed e (read_early read)
  | ok request =>
    rw [read] at failed
    dsimp only at failed ⊢
    have carried := carried journal request settings today
    rw [failed] at carried
    generalize (journal.carryOut request settings today).1 = next at carried ⊢
    cases carried with
    | nameRefused _ unnamed early =>
      rw [unnamed]
      exact .unnamed e early
    | levelRefused id named refused unknown =>
      rw [named, unknown]
      exact .levelRefused refused id
    | fileRefused id named level accepted _ late tree =>
      rw [named, accepted]
      exact .late e late id level tree

namespace Failed

variable {journal next : Journal} {e : RequestError} {asked : Option LoggerId}
  {opening : Option Opening} (failed : Failed journal e asked opening next)

include failed

theorem handles : next.handles = journal.handles := by
  cases failed <;> rfl

theorem deliveries : next.deliveries = journal.deliveries ∧ next.strays = journal.strays := by
  cases failed <;> exact ⟨rfl, rfl⟩

theorem matched {among : LoggerId → Prop}
    (passes : ∀ id, among id → next.passes id = journal.passes id)
    (sinks : ∀ id, among id → next.registry.sinks id = journal.registry.sinks id) :
    Matched among next journal :=
  ⟨failed.handles, failed.deliveries.1, failed.deliveries.2, passes, sinks⟩

end Failed

/-- Calls one after the other have the same outcomes in two journals and leave the same on all
consoles and in all files. -/
structure SameLogs (settings : LoggingSettings) (left right : Journal) (later : List Step) :
    Prop where
  outcomes : outcomes settings left later = outcomes settings right later
  deliveries : (resume settings left later).deliveries = (resume settings right later).deliveries
  strays : (resume settings left later).strays = (resume settings right later).strays
  consoles : ∀ i, (resume settings left later).console i = (resume settings right later).console i
  files : ∀ place,
    (resume settings left later).file place = (resume settings right later).file place

theorem Matched.sameLogs {settings : LoggingSettings} {among : LoggerId → Prop}
    {left right : Journal} (matched : Matched among left right) {later : List Step}
    (through : ∀ step ∈ later, step.Through left.loggers among) :
    SameLogs settings left right later := by
  have final : Matched among (Journal.resume settings left later)
      (Journal.resume settings right later) := (matched.resume through).2
  exact ⟨(matched.resume through).1, final.deliveries, final.strays, final.console, final.file⟩

end Journal

def Registry.levelWith (registry : Registry) (id : LoggerId) (level : Int) (way : List LoggerId) :
    Int :=
  ((way.map fun m => if id = m then level else registry.level m).find? (· ≠ 0)).getD 0

/-- How a logger stands after a request that failed late. Its way is as before but for the logger
that the request asked for. The level of that one counts as set, and its handle as gone. -/
structure Registry.CutOff (before after : Registry) (id : LoggerId) (level : Int)
    (other : LoggerId) : Prop where
  way : (after.lineage other).filter (· ≠ id) = (before.lineage other).filter (· ≠ id)
  level : after.effectiveLevel other = before.levelWith id level (after.lineage other)
  sinks : after.sinks other = (before.sinks other).filter (before.sink id ≠ some ·)
  away : id ∉ after.lineage other → after.Alike before other

namespace Journal

theorem Reflects.alike {ledger ledger' : Ledger} {before after : Journal}
    (known : Reflects ledger before) (reflects : Reflects ledger' after) {other : LoggerId}
    (made : other ∈ before.loggers) (still : other ∈ after.loggers)
    (same : ledger'.effectiveLevel other = ledger.effectiveLevel other ∧
      ledger'.reached other = ledger.reached other) :
    after.registry.Alike before.registry other := by
  constructor
  · rw [reflects.effectiveLevel still, known.effectiveLevel made, same.1]
  · rw [reflects.sinks still, known.sinks made, same.2]

section

variable {ledger : Ledger} {before after : Journal} {id other : LoggerId}
  (known : Reflects ledger before) (same : after.loggers = before.loggers)
  (joins : Registry.Joins ledger.names id other) (made : other ∈ before.loggers)

include known same joins made

theorem alike_of_asked (reflects : Reflects (ledger.add (some id) none) after) :
    after.registry.Alike before.registry other :=
  known.alike reflects made (same ▸ made) (known.add_asked joins)

theorem cutOff_of_opened {level : Int}
    (reflects : Reflects (ledger.cutOff id level) after) :
    before.registry.CutOff after.registry id level other := by
  have entered := known.entered other made
  have still : other ∈ after.loggers := same ▸ made
  have way_before := known.linked.lineage known.named entered
  have way_after : after.registry.lineage other =
      Registry.ancestry (Registry.enter ledger.names id) other :=
    reflects.linked.lineage reflects.named (reflects.entered other still)
  constructor
  · rw [way_before, way_after]
    exact Registry.ancestry_enter joins
  · rw [reflects.effectiveLevel still, way_after, Ledger.effectiveLevel_cutOff]
    unfold Registry.levelWith
    rw [known.level]
  · rw [reflects.sinks still, known.reached_cutOff joins, known.sinks made, known.sink]
  · intro away
    rw [way_after] at away
    exact known.alike reflects made still (Ledger.away_cutOff joins entered level away)

end

theorem mem_lineage_iff {ledger : Ledger} {journal : Journal} (reflects : Reflects ledger journal)
    {id other : LoggerId} (steady : Registry.Steady ledger.names other.name)
    (asked : Registry.Entered ledger.names id) (made : other ∈ journal.loggers) :
    id ∈ journal.registry.lineage other ↔
      id = other ∨ id = .root ∨ ∃ outer ∈ Registry.outerNames other.name, id = .named outer := by
  have entered := reflects.entered other made
  rw [reflects.linked.lineage reflects.named entered]
  cases other with
  | root =>
    have none_outer : Registry.outerNames LoggerId.root.name = [] := by decide
    simp [Registry.ancestry, none_outer]
  | named name =>
    have steady : Registry.Steady ledger.names name := steady
    rw [steady.ancestry_eq]
    cases id with
    | root => simp
    | named n =>
      have known : n ∈ ledger.names := asked
      simp [LoggerId.name, known]

theorem Failed.opening_of_late {before after : Journal} {e : RequestError}
    {asked : Option LoggerId} {opening : Option Opening}
    (failed : Failed before e asked opening after) (late : e.isLate = true) :
    ∃ id level, asked = some id ∧ opening = some ⟨id, level, none⟩ ∧ after.decided = [] := by
  cases failed with
  | unnamed _ early =>
    rw [late] at early
    cases early
  | levelRefused refused id => cases late
  | late _ _ id level tree => exact ⟨id, level, rfl, rfl, rfl⟩

theorem Failed.decided_of_early {before after : Journal} {e : RequestError}
    {asked : Option LoggerId} {opening : Option Opening}
    (failed : Failed before e asked opening after) (early : e.isLate = false) :
    opening = none ∧ after.decided = before.decided := by
  cases failed with
  | unnamed => exact ⟨rfl, rfl⟩
  | levelRefused => exact ⟨rfl, rfl⟩
  | late _ late =>
    rw [early] at late
    cases late

theorem passes_of_forgotten {journal : Journal} (forgotten : journal.decided = []) :
    journal.passes = journal.registry.passes := by
  funext id severity
  simp [passes, forgotten]

theorem passes_of_alike {left right : Journal} (decided : left.decided = right.decided)
    {id : LoggerId} (alike : left.registry.Alike right.registry id) :
    left.passes id = right.passes id := by
  funext severity
  simp only [passes, decided, Registry.passes, alike.level]

theorem Step.Through.imp {loggers : List LoggerId} {among wider : LoggerId → Prop} {step : Step}
    (through : step.Through loggers among)
    (wide : ∀ id ∈ loggers, among id → wider id) : step.Through loggers wider := by
  cases step with
  | request => exact through
  | log => exact fun id found => wide id (List.mem_of_getElem? found) (through id found)
  | setContext => exact True.intro
  | clearContext => exact True.intro

def Apart (ledger : Ledger) (asked : Option LoggerId) (other : LoggerId) : Prop :=
  ∀ id, asked = some id → Registry.Joins ledger.names id other

structure LeavesAlone (settings : LoggingSettings) (before after : Journal)
    (among : LoggerId → Prop) : Prop where
  alike : ∀ other ∈ before.loggers, among other → after.registry.Alike before.registry other
  logs : ∀ later, (∀ step ∈ later, step.Through before.loggers among) →
    SameLogs settings after before later

/-- A logger has a new level and has lost its handle, which shows for some loggers on their ways and
for those among them alone that have it there. -/
structure LeavesCutOff (settings : LoggingSettings) (before after : Journal) (id : LoggerId)
    (level : Int) (among : LoggerId → Prop) : Prop where
  cutOff : ∀ other ∈ before.loggers, among other →
    before.registry.CutOff after.registry id level other
  spared : ∀ later,
    (∀ step ∈ later, step.Through before.loggers fun other =>
      among other ∧ id ∉ after.registry.lineage other ∧ before.UpToDate other) →
    SameLogs settings after before later
  handles : ∀ later, (∀ step ∈ later, step.isCall = true) →
    (resume settings after later).handles = (resume settings before later).handles
  calls : ∀ later, (∀ step ∈ later, step.isCall = true) →
    let now := resume settings after later
    let otherwise := resume settings before later
    ∀ handle ∈ now.handles, among handle.logger → ∀ severity message named around,
      (handle.record severity message named around).Plain →
      ¬ ("self" ∈ Table.keys named ∨ "msg" ∈ Table.keys named) →
      let record := handle.record severity message named around
      let done := now.log handle severity message named around
      let sinks := (otherwise.registry.sinks handle.logger).filter
        (otherwise.registry.sink id ≠ some ·)
      done.2 = .ok () ∧
        if otherwise.registry.levelWith id level (now.registry.lineage handle.logger) ≤
            severity.rank then
          Adds now done.1 (sinks.map fun i => ⟨i, record, around.rotates i⟩)
            (if sinks = [] ∧ Severity.warning.rank ≤ severity.rank then [record] else [])
        else Adds now done.1 [] []

structure FailsOnOwnWays (settings : LoggingSettings) (tree : FileTree) (past : List Step)
    (today : Date) (arguments : Entries) (e : RequestError) : Prop where
  handles : (run settings tree (past ++ [.request today arguments])).handles =
    (run settings tree past).handles
  deliveries : (run settings tree (past ++ [.request today arguments])).deliveries =
    (run settings tree past).deliveries
  strays : (run settings tree (past ++ [.request today arguments])).strays =
    (run settings tree past).strays
  early : e.isLate = false →
    LeavesAlone settings (run settings tree past)
      (run settings tree (past ++ [.request today arguments]))
      (Apart (ledger settings tree past) (asked? (.request today arguments)))
  late : e.isLate = true → ∃ id level,
    opening? settings (run settings tree past) (.request today arguments) =
        some ⟨id, level, none⟩ ∧
      LeavesCutOff settings (run settings tree past)
        (run settings tree (past ++ [.request today arguments])) id level
        (Apart (ledger settings tree past) (asked? (.request today arguments)))
  upToDate : ∀ other ∈ (run settings tree past).loggers,
    Registry.Steady (ledger settings tree past).names other.name →
    (run settings tree past).UpToDate other
  ways : ∀ id, asked? (.request today arguments) = some id →
    ∀ other ∈ (run settings tree past).loggers,
      Registry.Steady (ledger settings tree (past ++ [.request today arguments])).names
        other.name →
      (id ∈ (run settings tree (past ++ [.request today arguments])).registry.lineage other ↔
        id = other ∨ id = .root ∨ ∃ outer ∈ Registry.outerNames other.name, id = .named outer)

section Failure

variable {settings : LoggingSettings} {ledger : Ledger} {before after : Journal} {e : RequestError}
  {asked : Option LoggerId} {opening : Option Opening}
  (failed : Failed before e asked opening after)

include failed

theorem Failed.sameLogs {among : LoggerId → Prop} {later : List Step}
    (passes : ∀ id ∈ before.loggers, among id → after.passes id = before.passes id)
    (sinks : ∀ id ∈ before.loggers, among id →
      after.registry.sinks id = before.registry.sinks id)
    (through : ∀ step ∈ later, step.Through before.loggers among) :
    SameLogs settings after before later := by
  have loggers : after.loggers = before.loggers :=
    congrArg (List.map LogHandle.logger) failed.handles
  have matched : Matched (fun id => id ∈ before.loggers ∧ among id) after before :=
    failed.matched (fun id called => passes id called.1 called.2)
      fun id called => sinks id called.1 called.2
  refine matched.sameLogs fun step member => ?_
  rw [loggers]
  exact (through step member).imp fun id made called => ⟨made, called⟩

variable (known : Reflects ledger before) (reflects : Reflects (ledger.add asked opening) after)

include known reflects

theorem Failed.leavesAlone (early : e.isLate = false) :
    LeavesAlone settings before after (Apart ledger asked) := by
  have loggers : after.loggers = before.loggers :=
    congrArg (List.map LogHandle.logger) failed.handles
  obtain ⟨unopened, decided⟩ := failed.decided_of_early early
  have alike : ∀ other ∈ before.loggers, Apart ledger asked other →
      after.registry.Alike before.registry other := by
    intro other made apart
    rw [unopened] at reflects
    cases asks : asked with
    | none =>
      rw [asks, Ledger.add_none] at reflects
      exact known.alike reflects made (loggers ▸ made) ⟨rfl, rfl⟩
    | some id =>
      rw [asks] at reflects
      exact alike_of_asked known loggers (apart id asks) made reflects
  exact ⟨alike, fun later through => failed.sameLogs
    (fun id made apart => passes_of_alike decided (alike id made apart))
    (fun id made apart => (alike id made apart).sinks) through⟩

theorem Failed.leavesCutOff {id : LoggerId} {level : Int} (asks : asked = some id)
    (opened : opening = some ⟨id, level, none⟩) (forgotten : after.decided = []) :
    LeavesCutOff settings before after id level (Apart ledger asked) := by
  have loggers : after.loggers = before.loggers :=
    congrArg (List.map LogHandle.logger) failed.handles
  have cutOff : ∀ other ∈ before.loggers, Apart ledger asked other →
      before.registry.CutOff after.registry id level other := by
    intro other made apart
    rw [asks, opened] at reflects
    exact cutOff_of_opened known loggers (apart id asks) made reflects
  have forgets := passes_of_forgotten forgotten
  refine ⟨cutOff, ?spared, fun later calls => resume_handles settings failed.handles calls, ?calls⟩
  case spared =>
    intro later through
    refine failed.sameLogs ?_ ?_ through
    · rintro other made ⟨apart, away, upToDate⟩
      -- Nothing is remembered now, and what was remembered fitted the level.
      have alike := (cutOff other made apart).away away
      funext severity
      rw [forgets, upToDate severity, Registry.passes, Registry.passes, alike.level]
    · rintro other made ⟨apart, away, _⟩
      exact ((cutOff other made apart).away away).sinks
  case calls =>
    intro later calls now otherwise handle made apart severity message named around plain free
    obtain ⟨registry, passes, still⟩ := resume_call settings after calls
    have registry_otherwise : otherwise.registry = before.registry :=
      (resume_call settings before calls).1
    have called : handle.logger ∈ before.loggers := by
      rw [← loggers, ← still]
      exact List.mem_map_of_mem made
    have reaches := cutOff handle.logger called apart
    obtain ⟨accepted, added⟩ := log_plain now plain free
    refine ⟨accepted, ?_⟩
    unfold sent strayed at added
    rw [passes, forgets, Registry.passes, registry, reaches.level, reaches.sinks] at added
    simp only [decide_eq_true_eq] at added
    rw [registry, registry_otherwise]
    exact added

end Failure

/-- A request that fails leaves the handles that are there and delivers nothing. If it fails before
its level is accepted, later calls through loggers whose ways it does not cut into have the same
outcomes and leave the same on the consoles and in the files as without it. If it fails after that,
this holds for such loggers that do not have its logger on their way to the root and of which
nothing outdated is remembered. Of the others whose ways it does not cut into, a record is delivered
if its severity is not below the first level that decides on the way, the level of the request being
that of its logger, and to the same handles but the one that this logger held. A request cuts into
no way if its own name was asked for before, and not into that of a steady name, of which nothing
outdated is remembered either. -/
theorem failed_request_reaches_own_ways (settings : LoggingSettings) (tree : FileTree)
    (past : List Step) (today : Date) (arguments : Entries) {e : RequestError}
    (failed : ((run settings tree past).request settings today arguments).2 = .error e) :
    FailsOnOwnWays settings tree past today arguments e := by
  have known := reflects_run settings tree past
  have reflects := reflects_run settings tree (past ++ [.request today arguments])
  have next : ((run settings tree past).request settings today arguments).1 =
      run settings tree (past ++ [.request today arguments]) :=
    (run_append_singleton settings tree past (.request today arguments)).symm
  have kind := failed_of_request failed
  rw [next] at kind
  have step := ledger_append_singleton settings tree past (.request today arguments)
  have loggers : (run settings tree (past ++ [.request today arguments])).loggers =
      (run settings tree past).loggers := congrArg (List.map LogHandle.logger) kind.handles
  refine ⟨kind.handles, kind.deliveries.1, kind.deliveries.2, ?early, ?late,
    fun other made steady => upToDate_run made steady, ?ways⟩
  case early =>
    rw [step] at reflects
    exact kind.leavesAlone known reflects
  case late =>
    intro late
    rw [step] at reflects
    obtain ⟨id, level, asks, opened, forgotten⟩ := kind.opening_of_late late
    exact ⟨id, level, opened, kind.leavesCutOff known reflects asks opened forgotten⟩
  case ways =>
    intro id asks other made steady
    have entered : Registry.Entered
        (ledger settings tree (past ++ [.request today arguments])).names id := by
      rw [step, asks]
      exact Registry.entered_enter _ id
    exact mem_lineage_iff reflects steady entered (loggers ▸ made)

def wrongRotation (name : String) : Entries :=
  [("name", .string name), ("level", .int 50), ("log_to_file", .bool true),
    ("log_dir", .string "logs"), ("rotation", .string "x")]

theorem failed_request_reaches_own_ways_outward :
    let past : List Step := [ask "n", ask "n.c", ask "m"]
    let before := run noSettings .bare past
    let after := run noSettings .bare (past ++ [.request ⟨2024, 1, 2⟩ (wrongRotation "n")])
    before.registry.sinks (.named "n.c") = [1, 0] ∧ after.registry.sinks (.named "n.c") = [1] ∧
      before.registry.effectiveLevel (.named "n") = 20 ∧
      after.registry.effectiveLevel (.named "n") = 50 ∧
      SameLogs noSettings after before [.log 2 .warning (.string "hi") [] calm] := by
  intro past before after
  have fails : ((run noSettings .bare past).request noSettings ⟨2024, 1, 2⟩
      (wrongRotation "n")).2 = .error (.rotation (.unknown "X")) := rfl
  have reaches := failed_request_reaches_own_ways noSettings .bare past ⟨2024, 1, 2⟩
    (wrongRotation "n") fails
  have known : Text.ofString "n" ∈ (ledger noSettings .bare past).names := by decide
  have apart (other : LoggerId) : Apart (ledger noSettings .bare past)
      (asked? (.request ⟨2024, 1, 2⟩ (wrongRotation "n"))) other := by
    intro id asked
    cases asked
    exact .inl known
  obtain ⟨id, level, opened, leaves⟩ := reaches.late rfl
  cases opened
  have inner := leaves.cutOff (.named "n.c") (by decide) (apart _)
  have own := leaves.cutOff (.named "n") (by decide) (apart _)
  have neighbour : before.UpToDate (.named "m") := reaches.upToDate _ (by decide) (by decide)
  refine ⟨rfl, inner.sinks.trans rfl, rfl, own.level.trans rfl, leaves.spared _ ?_⟩
  rw [List.forall_mem_singleton]
  rintro other ⟨⟩
  exact ⟨apart _, by decide, neighbour⟩

/-- A record that its logger would deliver is lost once a request under the name of the logger has
failed. A request that fails early can join two loggers that were apart. And a request that fails
late lets a message pass at a logger that has nothing to do with it, as all decide anew. -/
theorem failed_request_not_neutral :
    let attempt (name : String) : Step := .request ⟨2024, 1, 2⟩ (wrongRotation name)
    let fails (past : List Step) (arguments : Entries) : Prop :=
      ∃ e, ((run noSettings .bare past).request noSettings ⟨2024, 1, 2⟩ arguments).2 = .error e
    let linked : List Step := [askAt "r.x.y" (.string "NOTSET"), askAt "r" (.int 10), ask "z",
      .log 0 .debug (.string "a") [] calm, askAt "r.x" (.string "BAD")]
    (fails [ask "n"] (wrongRotation "n") ∧
      (run noSettings .bare [ask "n", .log 0 .warning (.string "hi") [] calm]).console 0 =
        Text.ofString "WARNING n [main] hi\n" ∧
      (run noSettings .bare [ask "n", attempt "n",
        .log 0 .warning (.string "hi") [] calm]).console 0 = []) ∧
    (fails [ask "r.x.y", ask "r"] [("name", .string "r.x"), ("level", .string "BAD")] ∧
      (run noSettings .bare [ask "r.x.y", ask "r",
        .log 0 .warning (.string "hi") [] calm]).console 1 = [] ∧
      (run noSettings .bare [ask "r.x.y", ask "r", askAt "r.x" (.string "BAD"),
        .log 0 .warning (.string "hi") [] calm]).console 1 =
          Text.ofString "WARNING r.x.y [main] hi\n") ∧
    fails linked (wrongRotation "z") ∧
      (run noSettings .bare (linked ++ [.log 0 .debug (.string "b") [] calm])).console 0 = [] ∧
      (run noSettings .bare (linked ++ [attempt "z",
        .log 0 .debug (.string "b") [] calm])).console 0 =
          Text.ofString "DEBUG r.x.y [main] b\n" :=
  ⟨⟨⟨_, rfl⟩, rfl, rfl⟩, ⟨⟨_, rfl⟩, rfl, rfl⟩, ⟨_, rfl⟩, rfl, rfl⟩

end Journal

end MarketSnapshot
