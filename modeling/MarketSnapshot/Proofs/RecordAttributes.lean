import Mathlib.Data.List.DropRight
import MarketSnapshot.Proofs.HandleCalls

namespace MarketSnapshot

namespace LogHandle

def tag (component : Value) : Value := component.orElse (.string "main")

def nested? (arguments : Entries) (name : String) : Option Value :=
  match Table.find? arguments "extra" with
  | some (.dict entries) => Table.find? entries name
  | _ => none

structure GivenOnce (arguments : Entries) : Prop where
  own : (Table.keys arguments).Nodup
  nested : (Table.keys (nestedOf arguments)).Nodup

theorem find?_nestedOf (arguments : Entries) (name : String) :
    Table.find? (nestedOf arguments) name = nested? arguments name := by
  unfold nestedOf nested?
  cases Table.find? arguments "extra" with
  | none => rfl
  | some v => cases v <;> rfl

theorem find?_plainArguments (arguments : Entries) (name : String) :
    Table.find? (plainArguments arguments) name =
      if name ∈ callNames then none else Table.find? arguments name := by
  unfold plainArguments
  by_cases special : name ∈ callNames
  · rw [if_pos special]
    exact Table.find?_filter_of_dropped (fun _ => decide_eq_false (not_not_intro special)) _
  · rw [if_neg special]
    exact Table.find?_filter (fun _ => decide_eq_true special) _

theorem nodup_plainArguments {arguments : Entries} (distinct : (Table.keys arguments).Nodup) :
    (Table.keys (plainArguments arguments)).Nodup :=
  distinct.sublist (List.filter_sublist.map Prod.fst)

/-- Of the sources that have a name the first one counts: the arguments, the context, the nested
attributes, and the component for its own name. -/
theorem find?_attributes {handle : LogHandle} (context : (Table.keys handle.context).Nodup)
    {arguments : Entries} (once : GivenOnce arguments) (name : String) :
    Table.find? (handle.attributes (nestedOf arguments) (plainArguments arguments)) name =
      (if name ∈ callNames then none else Table.find? arguments name).or
        ((Table.find? handle.context name).or
          ((nested? arguments name).or
            (if name = "component" then some (tag handle.component) else none))) := by
  have component : Table.find? [("component", tag handle.component)] name =
      if name = "component" then some (tag handle.component) else none := by
    simp only [Table.find?, eq_comm (a := "component")]
  unfold attributes
  dsimp only
  rw [Table.find?_merge _ (nodup_plainArguments once.own), Table.find?_merge _ context,
    Table.find?_merge _ once.nested, find?_plainArguments, find?_nestedOf, ← component]
  rfl

theorem nodup_attributes (handle : LogHandle) (nested arguments : Entries) :
    (Table.keys (handle.attributes nested arguments)).Nodup := by
  unfold attributes
  refine Table.nodup_keys_merge (Table.nodup_keys_merge (Table.nodup_keys_merge ?_ _) _) _
  exact List.nodup_singleton _

theorem isSet_iff (arguments : Entries) (name : String) :
    isSet arguments name = true ↔
      ∃ v, Table.find? arguments name = some v ∧ v.isTrue = true := by
  unfold isSet
  cases Table.find? arguments name with
  | none => simp [Value.isTrue]
  | some v => simp

end LogHandle

namespace Journal

namespace Step

def clears (i : Nat) : Step → Bool
  | .clearContext j => j = i
  | _ => false

/-- What a step adds to the context of a handle. A call that repeats an argument adds nothing. -/
def addition? (i : Nat) : Step → Option Entries
  | .setContext j more => if j = i ∧ "self" ∉ Table.keys more then some more else none
  | _ => none

end Step

def additions (i : Nat) (steps : List Step) : List Entries :=
  (steps.rtakeWhile (!·.clears i)).filterMap (·.addition? i)

def contextOf (added : List Entries) : Entries := added.foldl Table.merge []

theorem additions_append_singleton (i : Nat) (steps : List Step) (step : Step) :
    additions i (steps ++ [step]) =
      if step.clears i then [] else additions i steps ++ (step.addition? i).toList := by
  unfold additions
  rw [List.rtakeWhile_concat]
  cases step.clears i with
  | true => rfl
  | false =>
    simp only [Bool.not_false, if_true, Bool.false_eq_true, if_false, List.filterMap_append]
    cases added : step.addition? i <;> simp [added]

theorem contextOf_append_singleton (added : List Entries) (more : Entries) :
    contextOf (added ++ [more]) = Table.merge (contextOf added) more := by
  simp [contextOf, List.foldl_append]

theorem nodup_contextOf (added : List Entries) : (Table.keys (contextOf added)).Nodup := by
  induction added using List.reverseRecOn with
  | nil => exact List.nodup_nil
  | append_singleton added more ih =>
    rw [contextOf_append_singleton]
    exact Table.nodup_keys_merge ih more

theorem find?_contextOf {added : List Entries}
    (distinct : ∀ more ∈ added, (Table.keys more).Nodup) (name : String) :
    Table.find? (contextOf added) name = added.reverse.findSome? (Table.find? · name) := by
  induction added using List.reverseRecOn with
  | nil => rfl
  | append_singleton added more ih =>
    obtain ⟨earlier, last⟩ := List.forall_mem_append.mp distinct
    rw [contextOf_append_singleton, Table.find?_merge _ (last more (by simp)), ih earlier,
      List.reverse_append, List.reverse_singleton, List.singleton_append, List.findSome?_cons]
    cases Table.find? more name <;> rfl

theorem mem_additions {i : Nat} {steps : List Step} {more : Entries}
    (member : more ∈ additions i steps) : .setContext i more ∈ steps := by
  obtain ⟨step, recent, added⟩ := List.mem_filterMap.mp member
  have listed : step ∈ steps := (List.rtakeWhile_suffix _ steps).subset recent
  cases step with
  | setContext j given =>
    simp only [Step.addition?] at added
    split at added
    · rename_i own
      cases added
      exact own.1 ▸ listed
    · cases added
  | request => cases added
  | log => cases added
  | clearContext => cases added

section Handle

variable (settings : LoggingSettings) {journal : Journal} {i : Nat} {handle : LogHandle}

theorem handle_modify (made : journal.handles[i]? = some handle) (j : Nat)
    (f : LogHandle → LogHandle) :
    (journal.modifyHandle j f).handles[i]? = some (if j = i then f handle else handle) := by
  simp only [modifyHandle, List.getElem?_modify, made]
  split <;> rfl

theorem handle_perform (made : journal.handles[i]? = some handle) (step : Step) :
    (perform settings journal step).handles[i]? = some { handle with
      context := if step.clears i then [] else
        ((step.addition? i).map (Table.merge handle.context)).getD handle.context } := by
  cases step with
  | request today arguments =>
    have inside := (List.getElem?_eq_some_iff.mp made).1
    rcases (requested journal settings today arguments).handles with same | ⟨new, _, added⟩
    · exact (congrArg (·[i]?) same).trans made
    · exact (congrArg (·[i]?) added).trans ((List.getElem?_append_left inside).trans made)
  | log j severity message arguments around =>
    rw [perform_log_handles]
    exact made
  | setContext j more =>
    unfold perform setContext
    dsimp only [Step.clears, Step.addition?]
    by_cases refused : "self" ∈ Table.keys more
    · simpa [refused, Except.toOption] using made
    · rw [if_neg refused]
      refine (handle_modify made j _).trans ?_
      by_cases own : j = i <;> simp [own, refused]
  | clearContext j =>
    refine (handle_modify made j _).trans ?_
    by_cases own : j = i <;> simp [own, Step.clears, Step.addition?]

theorem handle_resume (made : journal.handles[i]? = some handle) (fresh : handle.context = [])
    (rest : List Step) :
    (resume settings journal rest).handles[i]? =
      some { handle with context := contextOf (additions i rest) } := by
  induction rest using List.reverseRecOn with
  | nil =>
    have same : contextOf (additions i []) = handle.context := fresh.symm
    rw [same]
    exact made
  | append_singleton rest step ih =>
    have next := handle_perform settings ih step
    rw [resume, List.foldl_append]
    refine next.trans ?_
    rw [additions_append_singleton]
    cases step.clears i with
    | true => rfl
    | false =>
      cases step.addition? i with
      | none => simp
      | some more => simp [contextOf_append_singleton]

end Handle

theorem handles_of_request {journal : Journal} {settings : LoggingSettings} {today : Date}
    {arguments : Entries} {made : LogHandle}
    (requested : (journal.request settings today arguments).2 = .ok made) :
    (journal.request settings today arguments).1.handles = journal.handles ++ [made] ∧
      made.context = [] := by
  unfold Journal.request at requested ⊢
  cases read : LogRequest.read arguments with
  | error e =>
    rw [read] at requested
    cases requested
  | ok request =>
    rw [read] at requested
    dsimp only at requested ⊢
    have carried := carried journal request settings today
    rw [requested] at carried
    generalize (journal.carryOut request settings today).1 = next at carried ⊢
    cases carried with
    | made => exact ⟨rfl, rfl⟩

structure Composed (component : Value) (context : Entries) (severity : Severity) (message : Value)
    (arguments : Entries) (around : Surroundings) (record : LogRecord) : Prop where
  severity : record.severity = severity
  message : record.message = message
  names : (Table.keys record.extra).Nodup
  attributes : ∀ name, Table.find? record.extra name =
    (if name ∈ LogHandle.callNames then none else Table.find? arguments name).or
      ((Table.find? context name).or
        ((LogHandle.nested? arguments name).or
          (if name = "component" then some (LogHandle.tag component) else none)))
  tagged : "component" ∈ Table.keys record.extra
  exception : ∀ t, record.exception = some t ↔
    t = around.exception ∧ ∃ v, Table.find? arguments "exc_info" = some v ∧ v.isTrue = true
  stack : ∀ t, record.stack = some t ↔
    t = around.stack ∧ ∃ v, Table.find? arguments "stack_info" = some v ∧ v.isTrue = true

theorem some_of_isSet_iff (isSet : Bool) (text t : Text) :
    (if isSet then some text else none) = some t ↔ t = text ∧ isSet = true := by
  cases isSet <;> simp [eq_comm]

theorem composed {handle : LogHandle} (context : (Table.keys handle.context).Nodup)
    (severity : Severity) (message : Value) {arguments : Entries}
    (once : LogHandle.GivenOnce arguments) (around : Surroundings) :
    Composed handle.component handle.context severity message arguments around
      (handle.record severity message arguments around) where
  severity := rfl
  message := rfl
  names := LogHandle.nodup_attributes handle _ _
  attributes := LogHandle.find?_attributes context once
  tagged := by
    unfold LogHandle.record LogHandle.attributes
    simp only [Table.mem_keys_merge_iff]
    exact .inl (.inl (.inl List.mem_cons_self))
  exception t := by
    rw [← LogHandle.isSet_iff]
    exact some_of_isSet_iff _ _ t
  stack t := by
    rw [← LogHandle.isSet_iff]
    exact some_of_isSet_iff _ _ t

/-- A handle that a request made, after any further steps. Its context is the merge of what was
added since it was last cleared: each name has the value of the latest addition that gives it. A
call that logs leaves all handles as they are, whatever becomes of it, and what it delivers is one
record, whose attributes are put together from the call, the context, the nested attributes and the
component. -/
theorem attributes_by_precedence (settings : LoggingSettings) (tree : FileTree)
    (past : List Step) (today : Date) (arguments : Entries) {made : LogHandle}
    (requested : ((run settings tree past).request settings today arguments).2 = .ok made)
    (rest : List Step) (distinct : ∀ i more, .setContext i more ∈ rest → (Table.keys more).Nodup) :
    let i := (run settings tree past).handles.length
    let journal := run settings tree (past ++ .request today arguments :: rest)
    let context := contextOf (additions i rest)
    let handle := { made with context := context }
    journal.handles[i]? = some handle ∧ (Table.keys context).Nodup ∧
    (∀ name, Table.find? context name =
      (additions i rest).reverse.findSome? (Table.find? · name)) ∧
    (∀ j severity message named around,
      (perform settings journal (.log j severity message named around)).handles =
        journal.handles) ∧
    ∀ severity message named around, LogHandle.GivenOnce named →
      ∃ record, Composed made.component context severity message named around record ∧
        record.logger = made.logger.name ∧
        ∃ (reached : List Nat) (strays : List LogRecord), strays <+: [record] ∧
          Adds journal (journal.log handle severity message named around).1
            (reached.map fun j => ⟨j, record, around.rotates j⟩) strays := by
  intro i journal context handle
  obtain ⟨handles, fresh⟩ := handles_of_request requested
  have start : (perform settings (run settings tree past)
      (.request today arguments)).handles[i]? = some made := by
    simp [perform, handles, i]
  have reached : journal = resume settings
      (perform settings (run settings tree past) (.request today arguments)) rest := by
    simp [journal, run, resume, List.foldl_append]
  have given : ∀ more ∈ additions i rest, (Table.keys more).Nodup :=
    fun more member => distinct i more (mem_additions member)
  have nodup := nodup_contextOf (additions i rest)
  refine ⟨?_, nodup, find?_contextOf given, ?_, ?_⟩
  · rw [reached]
    exact handle_resume settings start fresh rest
  · exact perform_log_handles settings journal
  · intro severity message named around once
    have own : (Table.keys handle.context).Nodup := nodup
    exact ⟨handle.record severity message named around,
      composed own severity message once around, rfl,
      adds_log journal handle severity message named around⟩

def taggedRequest : Entries :=
  [("name", .string "n"), ("component", .string "c"), ("level", .int 20)]

def overlappingSteps : List Step :=
  [.setContext 0 [("symbol", .string "A"), ("k", .int 1), ("old", .null)], .clearContext 0,
    .setContext 0 [("symbol", .string "B"), ("k", .int 2)],
    .log 0 .info (.string "x") [("symbol", .string "C"), ("name", .null)] calm,
    .setContext 0 [("k", .int 3)]]

def overlappingArguments : Entries :=
  [("exc_info", .bool true),
    ("extra", .dict [("component", .string "z"), ("k", .int 9), ("symbol", .null), ("n", .int 1)]),
    ("k", .int 4)]

theorem attributes_by_precedence_overlapping :
    ∃ made record,
      ((run noSettings .bare []).request noSettings ⟨2024, 1, 2⟩ taggedRequest).2 = .ok made ∧
      Composed made.component [("symbol", .string "B"), ("k", .int 3)] .info (.string "hi")
        overlappingArguments calm record ∧
      Table.find? record.extra "k" = some (.int 4) ∧
      Table.find? record.extra "symbol" = some (.string "B") ∧
      Table.find? record.extra "n" = some (.int 1) ∧
      Table.find? record.extra "component" = some (.string "z") ∧
      Table.find? record.extra "old" = none ∧
      Table.find? record.extra "exc_info" = none ∧ record.exception = some calm.exception := by
  have distinct : ∀ i more, .setContext i more ∈ overlappingSteps → (Table.keys more).Nodup := by
    intro i more member
    simp only [overlappingSteps, List.mem_cons, List.not_mem_nil, or_false, reduceCtorEq, false_or,
      Step.setContext.injEq] at member
    rcases member with ⟨_, rfl⟩ | ⟨_, rfl⟩ | ⟨_, rfl⟩ <;> decide
  obtain ⟨made, requested⟩ : ∃ made,
      ((run noSettings .bare []).request noSettings ⟨2024, 1, 2⟩ taggedRequest).2 = .ok made :=
    ⟨_, rfl⟩
  obtain ⟨_, _, _, _, records⟩ :=
    attributes_by_precedence noSettings .bare [] ⟨2024, 1, 2⟩ taggedRequest requested
      overlappingSteps distinct
  obtain ⟨record, composed, _, _⟩ := records .info (.string "hi") overlappingArguments calm
    ⟨by decide, by decide⟩
  have attributes := composed.attributes
  refine ⟨made, record, requested, composed, ?_, ?_, ?_, ?_, ?_, ?_, ?_⟩
  · exact (attributes "k").trans rfl
  · exact (attributes "symbol").trans rfl
  · exact (attributes "n").trans rfl
  · exact (attributes "component").trans rfl
  · exact (attributes "old").trans rfl
  · exact (attributes "exc_info").trans rfl
  · exact (composed.exception _).mpr ⟨rfl, .bool true, rfl, rfl⟩

end Journal

end MarketSnapshot
