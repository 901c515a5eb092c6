import Mathlib.Data.List.Basic
import MarketSnapshot.Settings.Basic

namespace MarketSnapshot

namespace Sources

def inGroup (group : String) (name : List Char) : Bool :=
  group.toList.isPrefixOf (name.map Char.toLower)

def withoutLogging {α : Type} (entries : List (List Char × α)) : List (List Char × α) :=
  entries.filter fun entry => !inGroup "log_" entry.1

/-- Sources that differ only in variables of the logging group. Those of a file are compared as
they are once its references are filled in. -/
structure AgreeApartFromLogging (s t : Sources) : Prop where
  environment : withoutLogging (named s.environment) = withoutLogging (named t.environment)
  file : withoutLogging s.file = withoutLogging t.file

theorem last?_filter {α : Type} {entries : List (List Char × α)} {name : String}
    {keep : List Char × α → Bool}
    (kept : ∀ entry, matchesName name entry.1 = true → keep entry = true) :
    last? (entries.filter keep) name = last? entries name := by
  have same : ∀ entry, decide (keep entry = true ∧ matchesName name entry.1 = true) =
      matchesName name entry.1 := by
    intro entry
    cases found : matchesName name entry.1 with
    | false => simp
    | true => simp [kept entry found]
  unfold last?
  rw [← List.filter_reverse, List.find?_filter, funext same]

theorem matchesName_iff {name : String} {other : List Char} :
    matchesName name other = true ↔ name.toList.map Char.toLower = other.map Char.toLower := by
  simp [matchesName]

theorem inGroup_of_matches (group : String) {name : String} {other : List Char}
    (found : matchesName name other = true) : inGroup group other = inGroup group name.toList := by
  rw [inGroup, inGroup, matchesName_iff.mp found]

theorem last?_withoutLogging {α : Type} (entries : List (List Char × α)) {name : String}
    (other : inGroup "log_" name.toList = false) :
    last? (withoutLogging entries) name = last? entries name := by
  apply last?_filter
  intro entry found
  rw [inGroup_of_matches "log_" found, other]
  rfl

namespace AgreeApartFromLogging

variable {s t : Sources} (agree : s.AgreeApartFromLogging t)

include agree

theorem value? {name : String} (other : inGroup "log_" name.toList = false) :
    s.value? name = t.value? name := by
  unfold Sources.value?
  rw [← last?_withoutLogging (named s.environment) other, agree.environment,
    last?_withoutLogging _ other, ← last?_withoutLogging s.file other, agree.file,
    last?_withoutLogging _ other]

theorem fields {group : String} {names : List String}
    (other : ∀ name ∈ names, inGroup "log_" (group ++ name).toList = false) :
    s.fields group names = t.fields group names := by
  unfold Sources.fields
  apply List.filterMap_congr
  intro name member
  rw [agree.value? (other name member)]

theorem serializer : SerializerSettings.load s = SerializerSettings.load t := by
  unfold SerializerSettings.load
  rw [agree.fields (by decide)]

end AgreeApartFromLogging

end Sources

namespace EnvFile

def referencesWithin : Nat → List Char → List (List Char)
  | 0, _ => []
  | _ + 1, [] => []
  | fuel + 1, c :: rest =>
    match reference? (c :: rest) with
    | some ((name, _), after) => name :: referencesWithin fuel after
    | none => referencesWithin fuel rest

def references (cs : List Char) : List (List Char) := referencesWithin cs.length cs

theorem expandWithin_congr {lookup other : List Char → Option (Option Text)} {fuel : Nat}
    {cs : List Char} (same : ∀ name ∈ referencesWithin fuel cs, lookup name = other name) :
    expandWithin lookup fuel cs = expandWithin other fuel cs := by
  fun_induction referencesWithin fuel cs with
  | case1 => rfl
  | case2 => rfl
  | case3 fuel c rest name fallback after found ih =>
    obtain ⟨first, later⟩ := List.forall_mem_cons.mp same
    rw [expandWithin, expandWithin, found]
    dsimp only
    rw [first, ih later]
  | case4 fuel c rest none_found ih =>
    rw [expandWithin, expandWithin, none_found]
    dsimp only
    rw [ih same]

end EnvFile

namespace Sources

def apartFromLogging (environment : Environment) : Environment :=
  environment.filter fun entry => !(Text.chars? entry.1).any (inGroup "log_")

theorem withoutLogging_named (environment : Environment) :
    withoutLogging (named environment) = named (apartFromLogging environment) := by
  unfold withoutLogging named apartFromLogging
  rw [List.filter_filterMap, List.filterMap_filter]
  congr 1
  funext entry
  cases Text.chars? entry.1 with
  | none => rfl
  | some name => cases held : inGroup "log_" name <;> simp [held]

/-- Variables that a file may set without a look at those of the logging group: the others refer to
none of these. -/
def ReadsNoLogging (bindings : List EnvFile.Binding) : Prop :=
  ∀ b ∈ bindings, inGroup "log_" b.name = false →
    ∀ value ∈ b.value, ∀ name ∈ EnvFile.references value, inGroup "log_" name = false

instance (bindings : List EnvFile.Binding) : Decidable (ReadsNoLogging bindings) :=
  inferInstanceAs (Decidable (∀ _ ∈ bindings, _ → _))

theorem find?_withoutLogging {α : Type} {name : List Char} (other : inGroup "log_" name = false)
    (table : Table (List Char) α) :
    Table.find? (withoutLogging table) name = Table.find? table name := by
  unfold withoutLogging
  exact Table.find?_filter (by simp [other]) table

theorem find?_apartFromLogging {name : List Char} (other : inGroup "log_" name = false)
    (environment : Environment) :
    Table.find? (apartFromLogging environment) (Text.ofChars name) =
      Table.find? environment (Text.ofChars name) := by
  unfold apartFromLogging
  exact Table.find?_filter (by simp [other]) environment

theorem withoutLogging_put {α : Type} (table : Table (List Char) α) (name : List Char) (value : α) :
    withoutLogging (Table.put table name value) =
      if inGroup "log_" name then withoutLogging table
      else Table.put (withoutLogging table) name value := by
  unfold withoutLogging
  split
  · rename_i logging
    exact Table.filter_put_of_dropped (by simp [logging]) table value
  · rename_i other
    exact Table.filter_put_of_kept (by simp [other]) table value

section File

variable {s t : Environment} (same : apartFromLogging s = apartFromLogging t)
  {left right : Table (List Char) (Option Text)}

include same

theorem lookup_apart (tables : withoutLogging left = withoutLogging right) {name : List Char}
    (other : inGroup "log_" name = false) :
    EnvFile.lookup s left name = EnvFile.lookup t right name := by
  unfold EnvFile.lookup
  rw [← find?_withoutLogging other left, ← find?_withoutLogging other right, tables,
    ← find?_apartFromLogging other s, ← find?_apartFromLogging other t, same]

theorem bind_apart (tables : withoutLogging left = withoutLogging right) {b : EnvFile.Binding}
    (reads : ReadsNoLogging [b]) :
    withoutLogging (EnvFile.bind s left b) = withoutLogging (EnvFile.bind t right b) := by
  unfold EnvFile.bind
  rw [withoutLogging_put, withoutLogging_put, tables]
  split
  · rfl
  · rename_i other
    have value : b.value.map (EnvFile.expand (EnvFile.lookup s left)) =
        b.value.map (EnvFile.expand (EnvFile.lookup t right)) := by
      cases given : b.value with
      | none => rfl
      | some cs =>
        refine congrArg some (EnvFile.expandWithin_congr fun name member => ?_)
        have own : inGroup "log_" b.name = false := Bool.eq_false_iff.mpr other
        exact lookup_apart same tables (reads b (by simp) own cs given name member)
    rw [value]

theorem withoutLogging_load {file : List Char} (reads : ReadsNoLogging (EnvFile.bindings file)) :
    withoutLogging (EnvFile.load s file) = withoutLogging (EnvFile.load t file) := by
  have run (bindings : List EnvFile.Binding) (reads : ReadsNoLogging bindings) :
      ∀ {left right : Table (List Char) (Option Text)},
        withoutLogging left = withoutLogging right →
        withoutLogging (bindings.foldl (EnvFile.bind s) left) =
          withoutLogging (bindings.foldl (EnvFile.bind t) right) := by
    induction bindings with
    | nil => exact id
    | cons b rest ih =>
      intro left right tables
      have now : ReadsNoLogging [b] := fun _ member => reads _ (by simp_all)
      exact ih (fun _ member => reads _ (List.mem_cons_of_mem b member))
        (bind_apart same tables now)
  exact run (EnvFile.bindings file) reads rfl

end File

theorem agreeApartFromLogging_of {s t : Environment}
    (same : apartFromLogging s = apartFromLogging t) {file : String}
    (reads : ReadsNoLogging (EnvFile.bindings file.toList)) :
    (Sources.of s file).AgreeApartFromLogging (Sources.of t file) where
  environment := by
    rw [withoutLogging_named, withoutLogging_named]
    exact congrArg named same
  file := withoutLogging_load same reads

end Sources

theorem Sources.find?_fields (sources : Sources) (group name : String) (names : List String) :
    Table.find? (sources.fields group names) name =
      if name ∈ names then (sources.value? (group ++ name)).map Value.text else none := by
  unfold fields
  induction names with
  | nil => rfl
  | cons first rest ih =>
    by_cases same : first = name
    · subst same
      cases set : sources.value? (group ++ first) <;> simp_all [Table.find?]
    · cases set : sources.value? (group ++ first) <;>
        simp_all [Table.find?, Ne.symm same]

theorem Settings.serializer_of_load {sources : Sources} {settings : Settings}
    (loaded : Settings.load sources = .ok settings) :
    SerializerSettings.load sources = .ok settings.serializer := by
  unfold Settings.load at loaded
  cases serializer : SerializerSettings.load sources with
  | error rejection =>
    rw [serializer] at loaded
    cases loaded
  | ok form =>
    rw [serializer] at loaded
    cases logging : LoggingSettings.load sources with
    | error rejection =>
      rw [logging] at loaded
      cases loaded
    | ok _ =>
      rw [logging] at loaded
      cases loaded
      rfl

theorem Sources.AgreeApartFromLogging.settings {s t : Sources} (agree : s.AgreeApartFromLogging t)
    {left right : Settings} (loaded_left : Settings.load s = .ok left)
    (loaded_right : Settings.load t = .ok right) : left.serializer = right.serializer := by
  have same := agree.serializer
  rw [Settings.serializer_of_load loaded_left, Settings.serializer_of_load loaded_right] at same
  exact Except.ok.inj same

end MarketSnapshot
