import MarketSnapshot.Proofs.RecordAttributes

namespace MarketSnapshot

namespace LogRecord

theorem clash?_eq_none_iff (extra : Entries) :
    clash? extra = none ↔ ¬ ∃ name ∈ reservedNames, name ∈ Table.keys extra := by
  unfold clash?
  rw [List.find?_eq_none]
  constructor
  · rintro free ⟨name, reserved, member⟩
    exact free name member (decide_eq_true reserved)
  · intro free name member reserved
    exact free ⟨name, of_decide_eq_true reserved, member⟩

end LogRecord

namespace LogHandle

def Nests (arguments : Entries) (name : String) : Prop :=
  ∃ entries, Table.find? arguments "extra" = some (.dict entries) ∧ name ∈ Table.keys entries

/-- The attributes of a call have a name: it is that of an argument, of the context, of a nested
attribute, or of the component. -/
def Merges (handle : LogHandle) (arguments : Entries) (name : String) : Prop :=
  (name ∈ Table.keys arguments ∧ name ∉ callNames) ∨ name ∈ Table.keys handle.context ∨
    Nests arguments name ∨ name = "component"

theorem mem_keys_nestedOf_iff (arguments : Entries) (name : String) :
    name ∈ Table.keys (nestedOf arguments) ↔ Nests arguments name := by
  unfold nestedOf Nests
  cases Table.find? arguments "extra" with
  | none => simp [Table.keys]
  | some v => cases v <;> simp [Table.keys]

theorem mem_keys_plainArguments_iff (arguments : Entries) (name : String) :
    name ∈ Table.keys (plainArguments arguments) ↔
      name ∈ Table.keys arguments ∧ name ∉ callNames := by
  simp [plainArguments, Table.keys, callNames]

theorem mem_keys_attributes_iff (handle : LogHandle) (arguments : Entries) (name : String) :
    name ∈ Table.keys (handle.attributes (nestedOf arguments) (plainArguments arguments)) ↔
      handle.Merges arguments name := by
  have component (v : Value) : name ∈ Table.keys [("component", v)] ↔ name = "component" := by
    simp [Table.keys]
  unfold attributes Merges
  simp only [Table.mem_keys_merge_iff, mem_keys_nestedOf_iff, mem_keys_plainArguments_iff,
    component]
  tauto

instance (handle : LogHandle) (arguments : Entries) (name : String) :
    Decidable (handle.Merges arguments name) :=
  decidable_of_iff _ (mem_keys_attributes_iff handle arguments name)

theorem merges_unmarked_iff (handle : LogHandle) (arguments : Entries) (name : String) :
    handle.Merges (arguments.filter (·.1 ∉ ["exc_info", "stack_info"])) name ↔
      handle.Merges arguments name := by
  have nested : Table.find? (arguments.filter (·.1 ∉ ["exc_info", "stack_info"])) "extra" =
      Table.find? arguments "extra" := Table.find?_filter (by simp) arguments
  have own : name ∈ Table.keys (arguments.filter (·.1 ∉ ["exc_info", "stack_info"])) ∧
        name ∉ callNames ↔ name ∈ Table.keys arguments ∧ name ∉ callNames := by
    simp only [Table.keys, List.mem_map, List.mem_filter, callNames]
    grind
  unfold Merges Nests
  rw [nested, own]

end LogHandle

namespace Journal

def Clashes (handle : LogHandle) (arguments : Entries) : Prop :=
  ∃ name ∈ LogRecord.reservedNames, handle.Merges arguments name

instance (handle : LogHandle) (arguments : Entries) : Decidable (Clashes handle arguments) :=
  inferInstanceAs (Decidable (∃ name ∈ LogRecord.reservedNames, handle.Merges arguments name))

theorem clash?_record_iff (handle : LogHandle) (severity : Severity) (message : Value)
    (arguments : Entries) (around : Surroundings) :
    LogRecord.clash? (handle.record severity message arguments around).extra = none ↔
      ¬ Clashes handle arguments := by
  have names (name : String) :
      name ∈ Table.keys (handle.record severity message arguments around).extra ↔
        handle.Merges arguments name := LogHandle.mem_keys_attributes_iff handle arguments name
  rw [LogRecord.clash?_eq_none_iff]
  simp only [names, Clashes]

theorem holder_mem_reached {known : Ledger} {id : LoggerId} {i : Nat}
    (held : known.holder id = some i) : i ∈ known.reached id := by
  have first : id ∈ Registry.ancestry known.names id := by
    cases id <;> simp [Registry.ancestry]
  exact List.mem_filterMap.mpr ⟨id, first, held⟩

section Call

variable {handle : LogHandle} {arguments : Entries}
  (free : ¬ ("self" ∈ Table.keys arguments ∨ "msg" ∈ Table.keys arguments))

include free

theorem logged (handle : LogHandle) (journal : Journal) (severity : Severity) (message : Value)
    (around : Surroundings) :
    Emitted journal handle.logger (handle.record severity message arguments around) around.rotates
      (journal.log handle severity message arguments around).1
      (journal.log handle severity message arguments around).2 := by
  rw [log_of_free free]
  exact emitted journal handle.logger _ around.rotates

theorem log_low {journal : Journal} {severity : Severity}
    (low : journal.passes handle.logger severity = false) (message : Value)
    (around : Surroundings) :
    (journal.log handle severity message arguments around).2 = .ok () ∧
      Adds journal (journal.log handle severity message arguments around).1 [] [] := by
  have logged := logged free handle journal severity message around
  generalize journal.log handle severity message arguments around = done at logged ⊢
  obtain ⟨next, result⟩ := done
  cases logged with
  | below => exact ⟨rfl, adds_remember journal handle.logger severity⟩
  | reserved high => exact absurd (high.symm.trans low) nofun
  | delivered high => exact absurd (high.symm.trans low) nofun

theorem log_clashing {journal : Journal} {severity : Severity}
    (high : journal.passes handle.logger severity = true) (clashes : Clashes handle arguments)
    (message : Value) (around : Surroundings) :
    (∃ name, (journal.log handle severity message arguments around).2 =
        .error (.reserved name)) ∧
      Adds journal (journal.log handle severity message arguments around).1 [] [] := by
  have logged := logged free handle journal severity message around
  generalize journal.log handle severity message arguments around = done at logged ⊢
  obtain ⟨next, result⟩ := done
  cases logged with
  | below low => exact absurd (high.symm.trans low) nofun
  | reserved _ name => exact ⟨⟨name, rfl⟩, adds_remember journal handle.logger severity⟩
  | delivered _ harmless =>
    exact absurd clashes ((clash?_record_iff handle severity message arguments around).mp harmless)

theorem log_harmless {journal : Journal} {severity : Severity}
    (high : journal.passes handle.logger severity = true) (harmless : ¬ Clashes handle arguments)
    (message : Value) (around : Surroundings) :
    let record := handle.record severity message arguments around
    (journal.log handle severity message arguments around).2 = .ok () ∧
      Adds journal (journal.log handle severity message arguments around).1
        (journal.sent handle.logger record around.rotates)
        (journal.strayed handle.logger record) := by
  intro record
  have free_names : LogRecord.clash? record.extra = none :=
    (clash?_record_iff handle severity message arguments around).mpr harmless
  obtain ⟨accepted, added⟩ := emit_of_free journal handle.logger free_names around.rotates
  have passes : journal.passes handle.logger record.severity = true := high
  rw [if_pos passes] at added
  rw [log_of_free free]
  exact ⟨accepted, added⟩

end Call

structure DecidedByNames (settings : LoggingSettings) (tree : FileTree) (steps : List Step)
    (handle : LogHandle) (severity : Severity) (message : Value) (arguments : Entries)
    (around : Surroundings) : Prop where
  below :
    let journal := run settings tree steps
    let done := journal.log handle severity message arguments around
    ¬ threshold settings tree steps handle.logger severity ≤ severity.rank →
      done.2 = .ok () ∧ Adds journal done.1 [] []
  refused :
    let journal := run settings tree steps
    let done := journal.log handle severity message arguments around
    threshold settings tree steps handle.logger severity ≤ severity.rank →
      ((∃ name, done.2 = .error (.reserved name)) ↔ Clashes handle arguments)
  lost :
    let journal := run settings tree steps
    let done := journal.log handle severity message arguments around
    (∃ e, done.2 = .error e) → Adds journal done.1 [] []
  produced :
    let journal := run settings tree steps
    let done := journal.log handle severity message arguments around
    let record := handle.record severity message arguments around
    let reached := (ledger settings tree steps).reached handle.logger
    threshold settings tree steps handle.logger severity ≤ severity.rank →
      ¬ Clashes handle arguments →
        done.2 = .ok () ∧ Adds journal done.1 (reached.map fun j => ⟨j, record, around.rotates j⟩)
          (if reached = [] ∧ Severity.warning.rank ≤ severity.rank then [record] else [])
  once : ((ledger settings tree steps).reached handle.logger).Nodup
  own : ∀ j, (ledger settings tree steps).holder handle.logger = some j →
    j ∈ (ledger settings tree steps).reached handle.logger
  steady : Registry.Steady (ledger settings tree steps).names handle.logger.name →
    threshold settings tree steps handle.logger severity =
      (ledger settings tree steps).effectiveLevel handle.logger
  marks : ∀ mark ∈ ["exc_info", "stack_info"],
    mark ∈ Table.keys handle.context ∨ LogHandle.Nests arguments mark → Clashes handle arguments
  unmarked : Clashes handle arguments ↔
    Clashes handle (arguments.filter (·.1 ∉ ["exc_info", "stack_info"]))

/-- A call on a handle that was made in a run. Below the level that decides it is accepted and adds
nothing. Otherwise it is refused for a reserved name exactly if its attributes have one: that of
an argument that is not a mark, of the context, or nested; and then it adds nothing. Else it is
accepted and adds its record once for each handle on the way, the newest of its own logger
included, or as a stray if there is no handle and it is at least a warning. For a steady name the
level that decides is the present one. Marks among the arguments never make a difference to whether
a name clashes, and in the context or nested they always clash. -/
theorem calls_refused_by_names (settings : LoggingSettings) (tree : FileTree) (steps : List Step)
    {i : Nat} {handle : LogHandle} (made : (run settings tree steps).handles[i]? = some handle)
    (severity : Severity) (message : Value) {arguments : Entries}
    (free : ¬ ("self" ∈ Table.keys arguments ∨ "msg" ∈ Table.keys arguments))
    (around : Surroundings) :
    DecidedByNames settings tree steps handle severity message arguments around := by
  have reflects := reflects_run settings tree steps
  have called := mem_loggers made
  have sinks := reflects.sinks called
  have passes := passes_run settings tree called severity
  have stops (low : ¬ threshold settings tree steps handle.logger severity ≤ severity.rank) :
      (run settings tree steps).passes handle.logger severity = false :=
    passes.trans (decide_eq_false low)
  have lets (high : threshold settings tree steps handle.logger severity ≤ severity.rank) :
      (run settings tree steps).passes handle.logger severity = true :=
    passes.trans (decide_eq_true high)
  refine ⟨?below, ?refused, ?lost, ?produced, reflects.nodup_reached _,
    fun j => holder_mem_reached, fun steady => threshold_of_steady settings tree steady severity,
    ?marks, ?unmarked⟩
  case below => exact fun low => log_low free (stops low) message around
  case refused =>
    intro journal done high
    by_cases clashes : Clashes handle arguments
    · exact iff_of_true (log_clashing free (lets high) clashes message around).1 clashes
    · refine iff_of_false ?_ clashes
      rintro ⟨name, refused⟩
      exact absurd ((log_harmless free (lets high) clashes message around).1.symm.trans refused)
        nofun
  case lost =>
    rintro journal done ⟨e, refused⟩
    by_cases high : threshold settings tree steps handle.logger severity ≤ severity.rank
    · by_cases clashes : Clashes handle arguments
      · exact (log_clashing free (lets high) clashes message around).2
      · exact absurd ((log_harmless free (lets high) clashes message around).1.symm.trans refused)
          nofun
    · exact (log_low free (stops high) message around).2
  case produced =>
    intro journal done record reached high harmless
    obtain ⟨accepted, added⟩ := log_harmless free (lets high) harmless message around
    unfold sent strayed at added
    rw [sinks] at added
    exact ⟨accepted, added⟩
  case marks =>
    intro mark listed given
    have reserved : ∀ name ∈ ["exc_info", "stack_info"], name ∈ LogRecord.reservedNames := by
      decide
    exact ⟨mark, reserved mark listed, .inr (given.imp_right .inl)⟩
  case unmarked =>
    unfold Clashes
    simp only [LogHandle.merges_unmarked_iff]

theorem calls_refused_by_names_nested_mark :
    let journal := run noSettings .bare [ask "n", ask "n.c"]
    let mark : Entries := [("exc_info", .bool true)]
    ∃ handle, journal.handles[1]? = some handle ∧
      (journal.log handle .warning (.string "hi") mark calm).2 = .ok () ∧
      Adds journal (journal.log handle .warning (.string "hi") mark calm).1
        ([1, 0].map (⟨·, handle.record .warning (.string "hi") mark calm, none⟩)) [] ∧
      ∃ name, (journal.log handle .warning (.string "hi") [("extra", .dict mark)] calm).2 =
        .error (.reserved name) := by
  intro journal mark
  obtain ⟨handle, made⟩ : ∃ handle, journal.handles[1]? = some handle := ⟨_, rfl⟩
  have own : handle.logger = .named "n.c" := by
    cases made
    rfl
  have loud : threshold noSettings .bare [ask "n", ask "n.c"] handle.logger .warning ≤
      Severity.warning.rank := by
    rw [own]
    decide +kernel
  have reached : (ledger noSettings .bare [ask "n", ask "n.c"]).reached handle.logger = [1, 0] := by
    rw [own]
    decide +kernel
  have harmless : ¬ Clashes handle mark := by
    cases made
    decide
  have free : ¬ ("self" ∈ Table.keys mark ∨ "msg" ∈ Table.keys mark) := by decide
  have free_nested : ¬ ("self" ∈ Table.keys [("extra", Value.dict mark)] ∨
      "msg" ∈ Table.keys [("extra", Value.dict mark)]) := by decide
  have direct := calls_refused_by_names noSettings .bare [ask "n", ask "n.c"] made .warning
    (.string "hi") free calm
  have nested := calls_refused_by_names noSettings .bare [ask "n", ask "n.c"] made .warning
    (.string "hi") free_nested calm
  obtain ⟨accepted, added⟩ := direct.produced loud harmless
  rw [reached] at added
  refine ⟨handle, made, accepted, added, ?_⟩
  have clashes := nested.marks "exc_info" (by decide) (.inr ⟨mark, rfl, by decide⟩)
  exact (nested.refused loud).mpr clashes

/-- A call with a reserved name that the level of its logger has come to allow. It is not refused,
as none of its severity passed before. -/
theorem late_call_not_refused :
    let steps : List Step := [askAt "r.x.y" (.string "NOTSET"), askAt "r" (.int 10),
      .log 0 .debug (.string "a") [] calm, askAt "r.x" (.string "BAD")]
    let journal := run noSettings .bare steps
    let arguments : Entries := [("thread", .int 1)]
    ∃ handle, journal.handles[0]? = some handle ∧
      journal.registry.effectiveLevel handle.logger ≤ Severity.debug.rank ∧
      Clashes handle arguments ∧
      (journal.log handle .debug (.string "b") arguments calm).2 = .ok () :=
  ⟨_, rfl, by decide, by decide, rfl⟩

end Journal

end MarketSnapshot
