import MarketSnapshot.Proofs.JournalRuns

namespace MarketSnapshot

namespace Registry

theorem enter_of_entered {names : List Text} {id : LoggerId} (entered : Entered names id) :
    enter names id = names := by
  cases id with
  | root => rfl
  | named name => exact if_pos entered

theorem mem_enter_iff {names : List Text} {new : LoggerId} {name : Text}
    (other : .named name ≠ new) : name ∈ enter names new ↔ name ∈ names := by
  cases new with
  | root => exact Iff.rfl
  | named fresh =>
    have different : name ≠ fresh := fun same => other (congrArg LoggerId.named same)
    unfold enter
    dsimp only
    split
    · exact Iff.rfl
    · simp [different]

theorem subset_enter (names : List Text) (id : LoggerId) : names ⊆ enter names id := by
  intro name member
  have entered : Entered names (.named name) := member
  exact entered.enter id

/-- A logger can be entered without cutting into the way of another one: it is entered already, or
the name of the other one is steady. -/
def Joins (names : List Text) (new id : LoggerId) : Prop :=
  Entered names new ∨ Steady (enter names new) id.name

theorem ancestry_enter {names : List Text} {new id : LoggerId} (joins : Joins names new id) :
    (ancestry (enter names new) id).filter (· ≠ new) = (ancestry names id).filter (· ≠ new) := by
  rcases joins with known | steady
  · rw [enter_of_entered known]
  · cases id with
    | root => simp only [ancestry]
    | named name =>
      have after : Steady (enter names new) name := steady
      have before := after.mono (subset_enter names new)
      have outer : ((outerNames name).filter (· ∈ enter names new)).filter (.named · ≠ new) =
          ((outerNames name).filter (· ∈ names)).filter (.named · ≠ new) := by
        rw [List.filter_filter, List.filter_filter]
        apply List.filter_congr
        intro cut _
        by_cases same : .named cut = new
        · simp [same]
        · simp [same, mem_enter_iff same]
      rw [after.ancestry_eq, before.ancestry_eq]
      simp only [List.cons_append, List.filter_cons, List.filter_append, List.filter_map]
      simp only [Function.comp_def, outer]

end Registry

theorem filterMap_away {β : Type} {f : LoggerId → Option β} {id : LoggerId} (nothing : f id = none)
    (way : List LoggerId) : (way.filter (· ≠ id)).filterMap f = way.filterMap f := by
  rw [List.filterMap_filter]
  congr 1
  funext other
  by_cases same : other = id
  · simp [same, nothing]
  · simp [same]

theorem find?_away {f : LoggerId → Int} {id : LoggerId} (undecided : f id = 0)
    (way : List LoggerId) :
    ((way.filter (· ≠ id)).map f).find? (· ≠ 0) = (way.map f).find? (· ≠ 0) := by
  rw [List.find?_map, List.find?_map, List.find?_filter]
  congr 2
  funext other
  by_cases same : other = id
  · simp [same, undecided]
  · simp [same]

namespace Journal.Reflects

open Registry (Entered Joins ancestry enter)

variable {ledger : Ledger} {journal : Journal} (reflects : Reflects ledger journal)
  {id other : LoggerId}

include reflects

theorem facts_of_new (new : ¬ Entered ledger.names id) :
    ledger.level id = 0 ∧ ledger.holder id = none := by
  cases id with
  | root => exact absurd True.intro new
  | named name =>
    have absent := reflects.linked.find?_eq_none new
    rw [← reflects.level, ← reflects.sink]
    simp [Registry.level, Registry.sink, absent]

theorem add_asked (joins : Joins ledger.names id other) :
    (ledger.add (some id) none).effectiveLevel other = ledger.effectiveLevel other ∧
      (ledger.add (some id) none).reached other = ledger.reached other := by
  have names : (ledger.add (some id) none).names = enter ledger.names id := rfl
  have level : (ledger.add (some id) none).level = ledger.level := by
    funext m
    exact congrArg Prod.fst (Ledger.facts_add_none ledger (some id) m)
  have holder : (ledger.add (some id) none).holder = ledger.holder := by
    funext m
    exact Ledger.holder_add_none ledger (some id) m
  unfold Ledger.effectiveLevel Ledger.reached
  rw [names, level, holder]
  by_cases known : Entered ledger.names id
  · rw [Registry.enter_of_entered known]
    exact ⟨rfl, rfl⟩
  · -- A logger that is new decides nothing and holds nothing, so every way may leave it out.
    obtain ⟨undecided, nothing⟩ := reflects.facts_of_new known
    have way := Registry.ancestry_enter joins
    constructor
    · rw [← find?_away undecided, way, find?_away undecided]
    · rw [← filterMap_away nothing, way, filterMap_away nothing]

end Journal.Reflects

structure Call where
  logger : LoggerId
  record : LogRecord
  rotates : Nat → Option Int

namespace Journal

def call? (journal : Journal) : Step → Option Call
  | .log i severity message arguments around =>
    if "self" ∈ Table.keys arguments ∨ "msg" ∈ Table.keys arguments then none
    else journal.handles[i]?.map fun handle =>
      ⟨handle.logger, handle.record severity message arguments around, around.rotates⟩
  | _ => none

theorem mem_loggers {journal : Journal} {i : Nat} {handle : LogHandle}
    (made : journal.handles[i]? = some handle) : handle.logger ∈ journal.loggers :=
  List.mem_map_of_mem (List.mem_of_getElem? made)

theorem call?_mem {journal : Journal} {step : Step} {call : Call}
    (asked : journal.call? step = some call) : call.logger ∈ journal.loggers := by
  cases step with
  | log i severity message arguments around =>
    simp only [call?] at asked
    split at asked
    · cases asked
    · obtain ⟨handle, made, rfl⟩ := Option.map_eq_some_iff.mp asked
      exact mem_loggers made
  | _ => cases asked

section Free

variable {arguments : Entries}
  (free : ¬ ("self" ∈ Table.keys arguments ∨ "msg" ∈ Table.keys arguments))

include free

theorem call?_log {journal : Journal} {i : Nat} {handle : LogHandle}
    (made : journal.handles[i]? = some handle) (severity : Severity) (message : Value)
    (around : Surroundings) :
    journal.call? (.log i severity message arguments around) =
      some ⟨handle.logger, handle.record severity message arguments around, around.rotates⟩ := by
  simp only [call?, if_neg free, made, Option.map_some]

theorem log_of_free (journal : Journal) (handle : LogHandle) (severity : Severity)
    (message : Value) (around : Surroundings) :
    journal.log handle severity message arguments around =
      journal.emit handle.logger (handle.record severity message arguments around)
        around.rotates := by
  have none_taken : (Table.keys arguments).find? (· ∈ ["self", "msg"]) = none := by
    rw [List.find?_eq_none]
    intro name member taken
    have taken : name = "self" ∨ name = "msg" := by simpa using taken
    rcases taken with rfl | rfl
    · exact free (.inl member)
    · exact free (.inr member)
  unfold log
  rw [none_taken]

end Free

theorem log_taken (journal : Journal) (handle : LogHandle) (severity : Severity) (message : Value)
    {arguments : Entries} (taken : "self" ∈ Table.keys arguments ∨ "msg" ∈ Table.keys arguments)
    (around : Surroundings) :
    ∃ e, journal.log handle severity message arguments around = (journal, .error e) := by
  have found : ((Table.keys arguments).find? (· ∈ ["self", "msg"])).isSome = true := by
    rw [List.find?_isSome]
    rcases taken with taken | taken
    · exact ⟨_, taken, by decide⟩
    · exact ⟨_, taken, by decide⟩
  obtain ⟨argument, first⟩ := Option.isSome_iff_exists.mp found
  unfold log
  rw [first]
  exact ⟨_, rfl⟩

inductive Performed (settings : LoggingSettings) (journal : Journal) : Step → Journal → Prop where
  | requested (today : Date) (arguments : Entries) :
    Performed settings journal (.request today arguments)
      (journal.request settings today arguments).1
  | logged {step : Step} (call : Call) (asked : journal.call? step = some call) :
    Performed settings journal step (journal.emit call.logger call.record call.rotates).1
  | quiet {step : Step} {next : Journal} (call : ∀ today arguments, step ≠ .request today arguments)
    (unasked : journal.call? step = none)
    (added : Adds journal { next with handles := journal.handles } [] [])
    (decided : next.decided = journal.decided) : Performed settings journal step next

theorem performed (settings : LoggingSettings) (journal : Journal) (step : Step) :
    Performed settings journal step (perform settings journal step) := by
  have quiet (handles : List LogHandle) :
      Adds journal { { journal with handles := handles } with handles := journal.handles } [] [] :=
    ⟨rfl, rfl, rfl, rfl, (List.append_nil _).symm, (List.append_nil _).symm⟩
  cases step with
  | request today arguments => exact .requested today arguments
  | log i severity message arguments around =>
    unfold perform
    dsimp only
    cases made : journal.handles[i]? with
    | none => exact .quiet nofun (by simp [call?, made]) (quiet journal.handles) rfl
    | some handle =>
      by_cases taken : "self" ∈ Table.keys arguments ∨ "msg" ∈ Table.keys arguments
      · obtain ⟨e, refused⟩ := log_taken journal handle severity message taken around
        dsimp only
        rw [refused]
        exact .quiet nofun (by simp [call?, taken]) (quiet journal.handles) rfl
      · dsimp only
        rw [log_of_free taken]
        exact .logged _ (call?_log taken made severity message around)
  | setContext i more =>
    unfold perform setContext
    dsimp only
    split
    · exact .quiet nofun rfl (quiet journal.handles) rfl
    · exact .quiet nofun rfl (quiet _) rfl
  | clearContext i => exact .quiet nofun rfl (quiet _) rfl

theorem decided_emit (journal : Journal) (id : LoggerId) (record : LogRecord)
    (rotates : Nat → Option Int) :
    (journal.emit id record rotates).1.decided =
      Table.put journal.decided (id, record.severity) (journal.passes id record.severity) := by
  have emitted := emitted journal id record rotates
  generalize journal.emit id record rotates = done at emitted ⊢
  obtain ⟨next, result⟩ := done
  cases emitted <;> rfl

theorem opening?_of_call {step : Step} (call : ∀ today arguments, step ≠ .request today arguments)
    (settings : LoggingSettings) (journal : Journal) : opening? settings journal step = none := by
  rcases request_or_call step with ⟨today, arguments, rfl⟩ | ⟨_, _, opens⟩
  · exact absurd rfl (call today arguments)
  · exact opens settings journal

theorem call?_call {journal : Journal} {step : Step} {call : Call}
    (asked : journal.call? step = some call) :
    ∀ today arguments, step ≠ .request today arguments := by
  rintro today arguments rfl
  cases asked

def asks (journal : Journal) (id : LoggerId) (severity : Severity) (step : Step) : Bool :=
  (journal.call? step).any fun call => (call.logger, call.record.severity) = (id, severity)

/-- The steps before the first call of a severity on a logger since a level was accepted last, if
there was such a call. `past` holds the steps so far, and `found` those before the call. -/
def firstCall? (settings : LoggingSettings) (tree : FileTree) (id : LoggerId) (severity : Severity)
    (past : List Step) (found : Option (List Step)) : List Step → Option (List Step)
  | [] => found
  | step :: rest =>
    let journal := run settings tree past
    let next :=
      if (opening? settings journal step).isSome then none
      else if journal.asks id severity step then found.or (some past)
      else found
    firstCall? settings tree id severity (past ++ [step]) next rest

def deciding (settings : LoggingSettings) (tree : FileTree) (steps : List Step) (id : LoggerId)
    (severity : Severity) : List Step :=
  (firstCall? settings tree id severity [] none steps).getD steps

/-- The level that decides whether records of a severity pass at a logger. -/
def threshold (settings : LoggingSettings) (tree : FileTree) (steps : List Step) (id : LoggerId)
    (severity : Severity) : Int :=
  (ledger settings tree (deciding settings tree steps id severity)).effectiveLevel id

section Decisions

variable (settings : LoggingSettings) (tree : FileTree) {id : LoggerId} {severity : Severity}

theorem firstCall?_append_singleton (id : LoggerId) (severity : Severity)
    (past : List Step) (found : Option (List Step)) (steps : List Step) (step : Step) :
    firstCall? settings tree id severity past found (steps ++ [step]) =
      let journal := run settings tree (past ++ steps)
      let found := firstCall? settings tree id severity past found steps
      if (opening? settings journal step).isSome then none
      else if journal.asks id severity step then found.or (some (past ++ steps))
      else found := by
  induction steps generalizing past found with
  | nil => simp [firstCall?]
  | cons first rest ih =>
    rw [List.cons_append, firstCall?, ih]
    simp [firstCall?]

/-- What is remembered was found at the first call since a level was accepted. -/
theorem decided_run (id : LoggerId) (severity : Severity) (steps : List Step) :
    Table.find? (run settings tree steps).decided (id, severity) =
      (firstCall? settings tree id severity [] none steps).map fun past =>
        decide ((ledger settings tree past).effectiveLevel id ≤ severity.rank) := by
  induction steps using List.reverseRecOn with
  | nil => rfl
  | append_singleton past step ih =>
    rw [run_append_singleton, firstCall?_append_singleton, List.nil_append]
    dsimp only
    have performed := performed settings (run settings tree past) step
    generalize perform settings (run settings tree past) step = next at performed ⊢
    cases performed with
    | requested today arguments =>
      have unasked : (run settings tree past).asks id severity (.request today arguments) = false :=
        rfl
      have kind := requested (run settings tree past) settings today arguments
      generalize asked? (.request today arguments) = asked at kind
      generalize opening? settings (run settings tree past) (.request today arguments) = opening
        at kind ⊢
      generalize ((run settings tree past).request settings today arguments).1 = next at kind ⊢
      simp only [unasked]
      cases kind with
      | unnamed => exact ih
      | levelRefused => exact ih
      | failed => rfl
      | made => rfl
    | logged call asked =>
      have asks : (run settings tree past).asks id severity step =
          decide ((call.logger, call.record.severity) = (id, severity)) := by
        simp [asks, asked]
      rw [decided_emit, opening?_of_call (call?_call asked), asks]
      by_cases same : (call.logger, call.record.severity) = (id, severity)
      · obtain ⟨own, level⟩ := Prod.mk.inj same
        have made := call?_mem asked
        rw [own] at made
        have fits := (reflects_run settings tree past).effectiveLevel made
        rw [own, level, Table.find?_put_self, passes, ih, Registry.passes, fits]
        cases firstCall? settings tree id severity [] none past <;> simp
      · rw [Table.find?_put_of_ne _ _ same, ih]
        simp [same]
    | quiet call unasked added decided =>
      rw [decided, ih, opening?_of_call call]
      simp [asks, unasked]

theorem passes_run {steps : List Step} (made : id ∈ (run settings tree steps).loggers)
    (severity : Severity) :
    (run settings tree steps).passes id severity =
      decide (threshold settings tree steps id severity ≤ severity.rank) := by
  unfold passes threshold deciding
  rw [decided_run]
  cases firstCall? settings tree id severity [] none steps with
  | none =>
    have fits := (reflects_run settings tree steps).effectiveLevel made
    simp only [Option.map_none, Option.getD_none, Registry.passes, fits]
  | some past => rfl

theorem effectiveLevel_firstCall {steps past : List Step}
    (steady : Registry.Steady (ledger settings tree steps).names id.name)
    (found : firstCall? settings tree id severity [] none steps = some past) :
    (ledger settings tree past).effectiveLevel id =
      (ledger settings tree steps).effectiveLevel id := by
  induction steps using List.reverseRecOn with
  | nil => cases found
  | append_singleton before step ih =>
    rw [firstCall?_append_singleton, List.nil_append] at found
    dsimp only at found
    rw [ledger_append_singleton] at steady ⊢
    cases opened : opening? settings (run settings tree before) step with
    | some opening =>
      rw [opened] at found
      cases found
    | none =>
      rw [opened] at found steady
      have now : ((ledger settings tree before).add (asked? step) none).effectiveLevel id =
          (ledger settings tree before).effectiveLevel id := by
        cases asked : asked? step with
        | none => rw [Ledger.add_none]
        | some new =>
          rw [asked] at steady
          exact ((reflects_run settings tree before).add_asked (.inr steady)).1
      have fewer : (ledger settings tree before).names ⊆
          ((ledger settings tree before).add (asked? step) none).names := by
        cases asked? step with
        | none => exact List.Subset.refl _
        | some new => exact Registry.subset_enter _ new
      have earlier := ih (steady.mono fewer)
      rw [now]
      cases first : firstCall? settings tree id severity [] none before with
      | some q =>
        rw [first] at found
        refine earlier ?_
        rw [first]
        split at found
        · cases found
        · split at found <;> exact found
      | none =>
        rw [first] at found
        split at found
        · cases found
        · split at found
          · cases found
            rfl
          · cases found

theorem threshold_of_steady {steps : List Step}
    (steady : Registry.Steady (ledger settings tree steps).names id.name) (severity : Severity) :
    threshold settings tree steps id severity = (ledger settings tree steps).effectiveLevel id := by
  unfold threshold deciding
  cases found : firstCall? settings tree id severity [] none steps with
  | none => rfl
  | some past => exact effectiveLevel_firstCall settings tree steady found

end Decisions

/-- What is remembered of a logger fits its present level. -/
def UpToDate (journal : Journal) (id : LoggerId) : Prop :=
  ∀ severity, journal.passes id severity = journal.registry.passes id severity

theorem upToDate_run {settings : LoggingSettings} {tree : FileTree} {steps : List Step}
    {id : LoggerId} (made : id ∈ (run settings tree steps).loggers)
    (steady : Registry.Steady (ledger settings tree steps).names id.name) :
    (run settings tree steps).UpToDate id := by
  intro severity
  rw [passes_run settings tree made, threshold_of_steady settings tree steady, Registry.passes,
    (reflects_run settings tree steps).effectiveLevel made]

end Journal

end MarketSnapshot
