import Mathlib.Data.List.Induction
import Mathlib.Data.List.Nodup
import MarketSnapshot.Proofs.SettingsSources

namespace MarketSnapshot

namespace EnvFile

def Refers (cs : List Char) : Prop := ['$', '\x7b'] <:+: cs

instance (cs : List Char) : Decidable (Refers cs) :=
  inferInstanceAs (Decidable (['$', '\x7b'] <:+: cs))

theorem reference?_of_plain {cs : List Char} (plain : ¬ Refers cs) : reference? cs = none := by
  unfold reference?
  split
  · rename_i rest
    exact absurd ⟨[], rest, rfl⟩ plain
  · rfl

theorem expand_of_plain (lookup : List Char → Option (Option Text)) {cs : List Char}
    (plain : ¬ Refers cs) : expand lookup cs = Text.ofChars cs := by
  unfold expand
  induction cs with
  | nil => rfl
  | cons c rest ih =>
    have later : ¬ Refers rest := fun found => plain (List.infix_cons found)
    rw [List.length_cons, expandWithin, reference?_of_plain plain]
    exact congrArg (Glyph.char c :: ·) (ih later)

def Binding.entry (b : Binding) : List Char × Option Text := (b.name, b.value.map Text.ofChars)

theorem bind_of_plain (surroundings : Environment) {table : Table (List Char) (Option Text)}
    {b : Binding} (fresh : b.name ∉ Table.keys table) (plain : ∀ cs ∈ b.value, ¬ Refers cs) :
    bind surroundings table b = table ++ [b.entry] := by
  have value : b.value.map (expand (lookup surroundings table)) = b.value.map Text.ofChars := by
    apply Option.map_congr
    exact fun cs given => expand_of_plain _ (plain cs given)
  unfold bind
  rw [Table.put_of_fresh fresh, value]
  rfl

theorem load_of_plain (surroundings : Environment) {file : List Char}
    (distinct : ((bindings file).map Binding.name).Nodup)
    (plain : ∀ b ∈ bindings file, ∀ cs ∈ b.value, ¬ Refers cs) :
    load surroundings file = (bindings file).map Binding.entry := by
  have run (entries : List Binding) (distinct : (entries.map Binding.name).Nodup)
      (plain : ∀ b ∈ entries, ∀ cs ∈ b.value, ¬ Refers cs) :
      entries.foldl (bind surroundings) [] = entries.map Binding.entry := by
    -- Every name is new when it is bound, so no entry is written over.
    induction entries using List.reverseRecOn with
    | nil => rfl
    | append_singleton past b ih =>
      obtain ⟨plain_past, plain_last⟩ := List.forall_mem_append.mp plain
      rw [List.map_append] at distinct
      obtain ⟨distinct_past, _, apart⟩ := List.nodup_append.mp distinct
      rw [List.foldl_append, ih distinct_past plain_past, List.map_append]
      refine bind_of_plain surroundings ?_ (plain_last b (by simp))
      intro member
      rw [Table.keys, List.map_map] at member
      exact apart b.name member b.name (by simp) rfl
  exact run (bindings file) distinct plain

end EnvFile

namespace Sources

section Last

variable {α : Type} {entries : List (List Char × α)} {name : String}

theorem last?_eq_none_iff :
    last? entries name = none ↔ ∀ entry ∈ entries, matchesName name entry.1 = false := by
  simp [last?, List.find?_eq_none]

theorem mem_of_last? {a : α} (found : last? entries name = some a) :
    ∃ other, (other, a) ∈ entries ∧ matchesName name other = true := by
  unfold last? at found
  obtain ⟨entry, first, rfl⟩ := Option.map_eq_some_iff.mp found
  have matched := List.find?_some first
  exact ⟨entry.1, List.mem_reverse.mp (List.mem_of_find?_eq_some first), matched⟩

theorem last?_eq_some_iff (distinct : (entries.map fun entry => entry.1.map Char.toLower).Nodup)
    {a : α} :
    last? entries name = some a ↔
      ∃ other, (other, a) ∈ entries ∧ matchesName name other = true := by
  refine ⟨mem_of_last?, ?_⟩
  rintro ⟨other, member, matched⟩
  cases found : last? entries name with
  | none => simp [last?_eq_none_iff.mp found (other, a) member] at matched
  | some b =>
    obtain ⟨chosen, listed, matched_too⟩ := mem_of_last? found
    have spelled := (matchesName_iff.mp matched_too).symm.trans (matchesName_iff.mp matched)
    have same := List.inj_on_of_nodup_map distinct listed member spelled
    exact congrArg (some ∘ Prod.snd) same

end Last

structure Clear (environment : Environment) (entries : List EnvFile.Binding) : Prop where
  variableNames : ((named environment).map fun entry => entry.1.map Char.toLower).Nodup
  entryNames : (entries.map fun b => b.name.map Char.toLower).Nodup
  plain : ∀ b ∈ entries, ∀ cs ∈ b.value, ¬ EnvFile.Refers cs

/-- The text chosen for a name: that of a variable, even if it is empty, else that of an entry that
has a value. -/
inductive Chosen (environment : Environment) (entries : List EnvFile.Binding) (name : String) :
    Option Text → Prop where
  | ofVariable {spelling : List Char} {value : Text}
    (member : (spelling, value) ∈ named environment)
    (matched : matchesName name spelling = true) : Chosen environment entries name (some value)
  | ofEntry (unset : ∀ entry ∈ named environment, matchesName name entry.1 = false)
    {b : EnvFile.Binding} (member : b ∈ entries) (matched : matchesName name b.name = true)
    {cs : List Char} (given : b.value = some cs) :
    Chosen environment entries name (some (Text.ofChars cs))
  | none (unset : ∀ entry ∈ named environment, matchesName name entry.1 = false)
    (valueless : ∀ b ∈ entries, matchesName name b.name = true → b.value = none) :
    Chosen environment entries name none

section Value

variable {environment : Environment} {file : String}
  (clear : Clear environment (EnvFile.bindings file.toList))

include clear

theorem file_of_clear :
    (Sources.of environment file).file =
      (EnvFile.bindings file.toList).map EnvFile.Binding.entry := by
  refine EnvFile.load_of_plain environment ?_ clear.plain
  refine List.Nodup.of_map (fun name => name.map Char.toLower) ?_
  rw [List.map_map]
  exact clear.entryNames

theorem last?_file_iff (name : String) (value : Option Text) :
    last? (Sources.of environment file).file name = some value ↔
      ∃ b ∈ EnvFile.bindings file.toList,
        matchesName name b.name = true ∧ b.value.map Text.ofChars = value := by
  rw [file_of_clear clear, last?_eq_some_iff]
  · constructor
    · rintro ⟨other, member, matched⟩
      obtain ⟨b, listed, same⟩ := List.mem_map.mp member
      cases same
      exact ⟨b, listed, matched, rfl⟩
    · rintro ⟨b, listed, matched, rfl⟩
      exact ⟨b.name, List.mem_map_of_mem listed, matched⟩
  · rw [List.map_map]
    exact clear.entryNames

theorem value?_of_chosen {name : String} {value : Option Text}
    (chosen : Chosen environment (EnvFile.bindings file.toList) name value) :
    (Sources.of environment file).value? name = value := by
  have own : (Sources.of environment file).environment = environment := rfl
  unfold value?
  rw [own]
  cases chosen with
  | ofVariable member matched =>
    rw [(last?_eq_some_iff clear.variableNames).mpr ⟨_, member, matched⟩]
  | ofEntry unset member matched given =>
    rw [last?_eq_none_iff.mpr unset, (last?_file_iff clear name _).mpr ⟨_, member, matched, rfl⟩,
      given]
    rfl
  | none unset valueless =>
    rw [last?_eq_none_iff.mpr unset]
    cases found : last? (Sources.of environment file).file name with
    | none => rfl
    | some value =>
      obtain ⟨b, member, matched, rfl⟩ := (last?_file_iff clear name value).mp found
      rw [valueless b member matched]
      rfl

theorem chosen_value? (name : String) :
    Chosen environment (EnvFile.bindings file.toList) name
      ((Sources.of environment file).value? name) := by
  have own : (Sources.of environment file).environment = environment := rfl
  unfold value?
  rw [own]
  cases held : last? (named environment) name with
  | some value =>
    obtain ⟨spelling, member, matched⟩ := (last?_eq_some_iff clear.variableNames).mp held
    exact .ofVariable member matched
  | none =>
    have unset := last?_eq_none_iff.mp held
    cases found : last? (Sources.of environment file).file name with
    | none =>
      refine .none unset fun b member matched => ?_
      have entered := (last?_file_iff clear name _).mpr ⟨b, member, matched, rfl⟩
      rw [found] at entered
      cases entered
    | some value =>
      obtain ⟨b, member, matched, rfl⟩ := (last?_file_iff clear name value).mp found
      cases given : b.value with
      | some cs => exact .ofEntry unset member matched given
      | none =>
        -- The entry that matches has no value, and no other one matches.
        refine .none unset fun other listed matched_too => ?_
        have entered := (last?_file_iff clear name _).mpr ⟨other, listed, matched_too, rfl⟩
        rw [found, given] at entered
        exact Option.map_eq_none_iff.mp (Option.some.inj entered).symm

theorem chosen_iff (name : String) (value : Option Text) :
    Chosen environment (EnvFile.bindings file.toList) name value ↔
      value = (Sources.of environment file).value? name := by
  constructor
  · exact fun chosen => (value?_of_chosen clear chosen).symm
  · rintro rfl
    exact chosen_value? clear name

end Value

end Sources

namespace Field

def IsWord (t : Text) (b : Bool) : Prop :=
  ∃ cs, t = Text.ofChars cs ∧
    String.ofList (cs.map Char.toLower) ∈ (if b then trueWords else falseWords)

def wordFault (t : Text) : Cause := if t.Encodable then .flagSyntax else .undecodable

theorem flagOfWord_eq_some_iff (cs : List Char) (b : Bool) :
    flagOfWord cs = some b ↔
      String.ofList (cs.map Char.toLower) ∈ (if b then trueWords else falseWords) := by
  have apart : ∀ word ∈ trueWords, word ∉ falseWords := by decide
  unfold flagOfWord
  generalize String.ofList (cs.map Char.toLower) = word
  by_cases no : word ∈ falseWords
  · have other : word ∉ trueWords := fun yes => apart word yes no
    cases b <;> simp [no, other]
  · by_cases yes : word ∈ trueWords <;> cases b <;> simp [no, yes]

theorem readFlag_text (t : Text) :
    readFlag (.text t) = t.chars?.elim (.error .undecodable) fun cs =>
      (flagOfWord cs).elim (.error .flagSyntax) .ok := by
  simp only [readFlag]
  cases t.chars? with
  | none => rfl
  | some cs => cases word : flagOfWord cs <;> simp [word]

theorem readFlag_text_ok_iff (t : Text) (b : Bool) : readFlag (.text t) = .ok b ↔ IsWord t b := by
  rw [readFlag_text]
  unfold IsWord
  simp only [← flagOfWord_eq_some_iff, ← Text.chars?_eq_some_iff]
  cases t.chars? with
  | none => simp
  | some cs => cases word : flagOfWord cs <;> simp [word]

theorem readFlag_text_error_iff (t : Text) (cause : Cause) :
    readFlag (.text t) = .error cause ↔ (∀ b, ¬ IsWord t b) ∧ cause = wordFault t := by
  simp only [← readFlag_text_ok_iff]
  unfold wordFault
  rw [readFlag_text, if_congr (Text.encodable_iff t) rfl rfl]
  cases t.chars? with
  | none => simp [eq_comm]
  | some cs => cases word : flagOfWord cs <;> simp [word, eq_comm]

def flagOf : Option Text → Except Cause Bool
  | none => .ok false
  | some t => readFlag (.text t)

def Tells : Option Text → Bool → Prop
  | none, b => b = false
  | some t, b => IsWord t b

theorem flagOf_eq_ok_iff (value : Option Text) (b : Bool) :
    flagOf value = .ok b ↔ Tells value b := by
  cases value with
  | none => simp [flagOf, Tells, eq_comm]
  | some t => exact readFlag_text_ok_iff t b

theorem flagOf_eq_error_iff (value : Option Text) (cause : Cause) :
    flagOf value = .error cause ↔
      ∃ t, value = some t ∧ (∀ b, ¬ IsWord t b) ∧ cause = wordFault t := by
  cases value with
  | none => simp [flagOf]
  | some t => simpa [flagOf] using readFlag_text_error_iff t cause

section Fields

variable (sources : Sources) {group name spelling : String} {names : List String}
  (declared : name ∈ names) (spelled : group ++ name = spelling)

include declared spelled

theorem optional_text (default : Text) :
    optional (sources.fields group names) name readText default =
      .valid ((sources.value? spelling).getD default) := by
  unfold optional
  rw [sources.find?_fields, if_pos declared, spelled]
  cases sources.value? spelling <;> rfl

theorem optional_flag :
    optional (sources.fields group names) name readFlag false =
      match flagOf (sources.value? spelling) with
      | .ok b => .valid b
      | .error cause => .invalid ⟨name, cause⟩ [] := by
  unfold optional
  rw [sources.find?_fields, if_pos declared, spelled]
  cases sources.value? spelling with
  | none => rfl
  | some t =>
    simp only [Option.map_some, flagOf, ofReader]
    cases readFlag (.text t) <;> rfl

end Fields

end Field

open MarketSnapshot.Field

theorem SerializerSettings.load_eq (sources : Sources) :
    SerializerSettings.load sources =
      match flagOf (sources.value? "serializer_include_iso_time") with
      | .ok b => .ok ⟨(sources.value? "serializer_channel_prefix").getD "TWS:TICKS:", b⟩
      | .error cause => .error ⟨"SerializerSettings", [⟨"include_iso_time", cause⟩]⟩ := by
  have channelPrefix : "serializer_" ++ "channel_prefix" = "serializer_channel_prefix" := rfl
  have includeIsoTime : "serializer_" ++ "include_iso_time" = "serializer_include_iso_time" := rfl
  unfold SerializerSettings.load
  dsimp only
  rw [optional_text sources (by decide) channelPrefix,
    optional_flag sources (by decide) includeIsoTime]
  cases flagOf (sources.value? "serializer_include_iso_time") <;> rfl

theorem LoggingSettings.load_eq (sources : Sources) :
    LoggingSettings.load sources =
      match flagOf (sources.value? "log_to_file") with
      | .ok b => .ok
        ⟨(sources.value? "log_level").getD "INFO", b, (sources.value? "log_dir").getD "logs"⟩
      | .error cause => .error ⟨"LoggingSettings", [⟨"to_file", cause⟩]⟩ := by
  have level : "log_" ++ "level" = "log_level" := rfl
  have toFile : "log_" ++ "to_file" = "log_to_file" := rfl
  have dir : "log_" ++ "dir" = "log_dir" := rfl
  unfold LoggingSettings.load
  dsimp only
  rw [optional_text sources (by decide) level, optional_flag sources (by decide) toFile,
    optional_text sources (by decide) dir]
  cases flagOf (sources.value? "log_to_file") <;> rfl

namespace Settings

def serializerNames : List String := ["serializer_channel_prefix", "serializer_include_iso_time"]

def loggingNames : List String := ["log_level", "log_to_file", "log_dir"]

structure Made (chosen : String → Option Text → Prop) (settings : Settings) : Prop where
  channelPrefix : ∃ value, chosen "serializer_channel_prefix" value ∧
    settings.serializer.channelPrefix = value.getD "TWS:TICKS:"
  includeIsoTime : ∃ value, chosen "serializer_include_iso_time" value ∧
    Tells value settings.serializer.includeIsoTime
  level : ∃ value, chosen "log_level" value ∧ settings.logging.level = value.getD "INFO"
  toFile : ∃ value, chosen "log_to_file" value ∧ Tells value settings.logging.toFile
  dir : ∃ value, chosen "log_dir" value ∧ settings.logging.dir = value.getD "logs"

inductive Refused (chosen : String → Option Text → Prop) : Rejection → Prop where
  | serializer {t : Text} (given : chosen "serializer_include_iso_time" (some t))
    (fault : ∀ b, ¬ IsWord t b) :
    Refused chosen ⟨"SerializerSettings", [⟨"include_iso_time", wordFault t⟩]⟩
  | logging {value : Option Text} (first : chosen "serializer_include_iso_time" value) {b : Bool}
    (told : Tells value b) {t : Text} (given : chosen "log_to_file" (some t))
    (fault : ∀ b, ¬ IsWord t b) :
    Refused chosen ⟨"LoggingSettings", [⟨"to_file", wordFault t⟩]⟩

theorem load_eq_ok_iff (sources : Sources) (settings : Settings) :
    Settings.load sources = .ok settings ↔
      Made (fun name value => value = sources.value? name) settings := by
  unfold Settings.load
  rw [SerializerSettings.load_eq, LoggingSettings.load_eq]
  constructor
  · intro loaded
    cases iso : flagOf (sources.value? "serializer_include_iso_time") with
    | error cause => simp [iso] at loaded
    | ok b =>
      cases file : flagOf (sources.value? "log_to_file") with
      | error cause => simp [iso, file] at loaded
      | ok b' =>
        simp only [iso, file] at loaded
        cases loaded
        exact ⟨⟨_, rfl, rfl⟩, ⟨_, rfl, (flagOf_eq_ok_iff _ _).mp iso⟩, ⟨_, rfl, rfl⟩,
          ⟨_, rfl, (flagOf_eq_ok_iff _ _).mp file⟩, ⟨_, rfl, rfl⟩⟩
  · obtain ⟨⟨channelPrefix, includeIsoTime⟩, ⟨level, toFile, dir⟩⟩ := settings
    rintro ⟨⟨_, rfl, rfl⟩, ⟨_, rfl, iso⟩, ⟨_, rfl, rfl⟩, ⟨_, rfl, file⟩, ⟨_, rfl, rfl⟩⟩
    rw [(flagOf_eq_ok_iff _ _).mpr iso, (flagOf_eq_ok_iff _ _).mpr file]

theorem load_eq_error_iff (sources : Sources) (rejection : Rejection) :
    Settings.load sources = .error rejection ↔
      Refused (fun name value => value = sources.value? name) rejection := by
  unfold Settings.load
  rw [SerializerSettings.load_eq, LoggingSettings.load_eq]
  constructor
  · intro failed
    cases iso : flagOf (sources.value? "serializer_include_iso_time") with
    | error cause =>
      obtain ⟨t, given, fault, rfl⟩ := (flagOf_eq_error_iff _ _).mp iso
      simp only [iso] at failed
      cases failed
      exact .serializer given.symm fault
    | ok b =>
      cases file : flagOf (sources.value? "log_to_file") with
      | error cause =>
        obtain ⟨t, given, fault, rfl⟩ := (flagOf_eq_error_iff _ _).mp file
        simp only [iso, file] at failed
        cases failed
        exact .logging rfl ((flagOf_eq_ok_iff _ _).mp iso) given.symm fault
      | ok b' => simp [iso, file] at failed
  · intro refused
    cases refused with
    | serializer given fault =>
      rw [(flagOf_eq_error_iff _ _).mpr ⟨_, given.symm, fault, rfl⟩]
    | logging first told given fault =>
      rw [(flagOf_eq_ok_iff _ _).mpr (first ▸ told),
        (flagOf_eq_error_iff _ _).mpr ⟨_, given.symm, fault, rfl⟩]

theorem exists_refused_iff {chosen : String → Option Text → Prop}
    (total : ∀ name, ∃ value, chosen name value) :
    (∃ rejection, Refused chosen rejection) ↔
      ∃ name ∈ ["serializer_include_iso_time", "log_to_file"], ∃ t, chosen name (some t) ∧
        ∀ b, ¬ IsWord t b := by
  constructor
  · rintro ⟨_, refused⟩
    cases refused with
    | serializer given fault => exact ⟨_, by simp, _, given, fault⟩
    | logging _ _ given fault => exact ⟨_, by simp, _, given, fault⟩
  · rintro ⟨name, listed, t, given, fault⟩
    obtain ⟨first, held⟩ := total "serializer_include_iso_time"
    rcases List.mem_pair.mp listed with rfl | rfl
    · exact ⟨_, .serializer given fault⟩
    · by_cases told : ∃ b, Tells first b
      · exact ⟨_, .logging held told.choose_spec given fault⟩
      · cases first with
        | none => exact absurd ⟨false, rfl⟩ told
        | some other => exact ⟨_, .serializer held fun b word => told ⟨b, word⟩⟩

end Settings

namespace Sources

structure AlikeIn (keep : List Char → Bool) (s t : Environment)
    (left right : List EnvFile.Binding) : Prop where
  environment : ∀ entry, keep entry.1 = true → (entry ∈ named s ↔ entry ∈ named t)
  file : ∀ b, keep b.name = true → (b ∈ left ↔ b ∈ right)

namespace AlikeIn

variable {keep : List Char → Bool} {s t : Environment} {left right : List EnvFile.Binding}

theorem symm (alike : AlikeIn keep s t left right) : AlikeIn keep t s right left :=
  ⟨fun entry kept => (alike.environment entry kept).symm,
    fun b kept => (alike.file b kept).symm⟩

theorem chosen (alike : AlikeIn keep s t left right) {name : String}
    (kept : ∀ other, matchesName name other = true → keep other = true) {value : Option Text}
    (chosen : Chosen s left name value) : Chosen t right name value := by
  have unset (absent : ∀ entry ∈ named s, matchesName name entry.1 = false) :
      ∀ entry ∈ named t, matchesName name entry.1 = false := by
    refine fun entry member => Bool.eq_false_iff.mpr fun matched => ?_
    have held := (alike.environment entry (kept _ matched)).mpr member
    exact Bool.false_ne_true ((absent entry held).symm.trans matched)
  cases chosen with
  | ofVariable member matched =>
    exact .ofVariable ((alike.environment _ (kept _ matched)).mp member) matched
  | ofEntry absent member matched given =>
    exact .ofEntry (unset absent) ((alike.file _ (kept _ matched)).mp member) matched given
  | none absent valueless =>
    refine .none (unset absent) fun b member matched => ?_
    exact valueless b ((alike.file b (kept _ matched)).mpr member) matched

theorem chosen_iff (alike : AlikeIn keep s t left right) {name : String}
    (kept : ∀ other, matchesName name other = true → keep other = true) (value : Option Text) :
    Chosen s left name value ↔ Chosen t right name value :=
  ⟨alike.chosen kept, alike.symm.chosen kept⟩

end AlikeIn

theorem not_inGroup_of_matches {group name : String}
    (foreign : inGroup group name.toList = false) (other : List Char)
    (matched : matchesName name other = true) : (!inGroup group other) = true := by
  rw [inGroup_of_matches group matched, foreign]
  rfl

end Sources

theorem SerializerSettings.load_congr {s t : Sources}
    (same : ∀ name ∈ Settings.serializerNames, s.value? name = t.value? name) :
    SerializerSettings.load s = SerializerSettings.load t := by
  rw [SerializerSettings.load_eq, SerializerSettings.load_eq,
    same "serializer_channel_prefix" (by decide), same "serializer_include_iso_time" (by decide)]

theorem LoggingSettings.load_congr {s t : Sources}
    (same : ∀ name ∈ Settings.loggingNames, s.value? name = t.value? name) :
    LoggingSettings.load s = LoggingSettings.load t := by
  rw [LoggingSettings.load_eq, LoggingSettings.load_eq, same "log_level" (by decide),
    same "log_to_file" (by decide), same "log_dir" (by decide)]

namespace Settings

theorem load_congr {s t : Sources}
    (same : ∀ name ∈ serializerNames ++ loggingNames, s.value? name = t.value? name) :
    Settings.load s = Settings.load t := by
  obtain ⟨serializer, logging⟩ := List.forall_mem_append.mp same
  unfold Settings.load
  rw [SerializerSettings.load_congr serializer, LoggingSettings.load_congr logging]

def isSetting (other : List Char) : Bool :=
  (serializerNames ++ loggingNames).any (Sources.matchesName · other)

def AgreeOn (names : List String) (s t : Environment) (left right : String) : Prop :=
  ∀ name ∈ names, ∀ value, Sources.Chosen s (EnvFile.bindings left.toList) name value ↔
    Sources.Chosen t (EnvFile.bindings right.toList) name value

def AlikeWhere (keep : List Char → Bool) (s t : Environment) (left right : String) : Prop :=
  Sources.AlikeIn keep s t (EnvFile.bindings left.toList) (EnvFile.bindings right.toList)

/-- The settings of two environments with their files are the same, or refused alike, as far as the
two agree. No other name has an effect, and each group depends on no name of the other. -/
structure Follow (s t : Environment) (left right : String) : Prop where
  settings : AgreeOn (serializerNames ++ loggingNames) s t left right →
    Settings.load (Sources.of s left) = Settings.load (Sources.of t right)
  serializer : AgreeOn serializerNames s t left right →
    SerializerSettings.load (Sources.of s left) = SerializerSettings.load (Sources.of t right)
  logging : AgreeOn loggingNames s t left right →
    LoggingSettings.load (Sources.of s left) = LoggingSettings.load (Sources.of t right)
  without_others : AlikeWhere isSetting s t left right →
    Settings.load (Sources.of s left) = Settings.load (Sources.of t right)
  without_logging : AlikeWhere (fun name => !Sources.inGroup "log_" name) s t left right →
    SerializerSettings.load (Sources.of s left) = SerializerSettings.load (Sources.of t right)
  without_serializer : AlikeWhere (fun name => !Sources.inGroup "serializer_" name) s t left right →
    LoggingSettings.load (Sources.of s left) = LoggingSettings.load (Sources.of t right)

section Follow

variable {s t : Environment} {left right : String}

theorem AlikeWhere.agreeOn {keep : List Char → Bool} (alike : AlikeWhere keep s t left right)
    {names : List String}
    (kept : ∀ name ∈ names, ∀ other, Sources.matchesName name other = true → keep other = true) :
    AgreeOn names s t left right :=
  fun name listed => Sources.AlikeIn.chosen_iff alike (kept name listed)

theorem follow (clear : Sources.Clear s (EnvFile.bindings left.toList))
    (other : Sources.Clear t (EnvFile.bindings right.toList)) : Follow s t left right := by
  have values {names : List String} (same : AgreeOn names s t left right) :
      ∀ name ∈ names, (Sources.of s left).value? name = (Sources.of t right).value? name := by
    intro name listed
    have held := (same name listed _).mp (Sources.chosen_value? clear name)
    exact (Sources.chosen_iff other name _).mp held
  have foreign_logging : ∀ name ∈ serializerNames, Sources.inGroup "log_" name.toList = false := by
    decide
  have foreign_serializer :
      ∀ name ∈ loggingNames, Sources.inGroup "serializer_" name.toList = false := by
    decide
  constructor
  case settings => exact fun same => load_congr (values same)
  case serializer => exact fun same => SerializerSettings.load_congr (values same)
  case logging => exact fun same => LoggingSettings.load_congr (values same)
  case without_others =>
    refine fun alike => load_congr (values (alike.agreeOn fun name listed other matched => ?_))
    exact List.any_eq_true.mpr ⟨name, listed, matched⟩
  case without_logging =>
    exact fun alike => SerializerSettings.load_congr (values (alike.agreeOn fun name listed =>
      Sources.not_inGroup_of_matches (foreign_logging name listed)))
  case without_serializer =>
    exact fun alike => LoggingSettings.load_congr (values (alike.agreeOn fun name listed =>
      Sources.not_inGroup_of_matches (foreign_serializer name listed)))

end Follow

structure ChosenFrom (environment : Environment) (file : String)
    (chosen : String → Option Text → Prop) (load : Except Rejection Settings) : Prop where
  unique : ∀ name, ∃! value, chosen name value
  made : ∀ settings, load = .ok settings ↔ Made chosen settings
  refused : ∀ rejection, load = .error rejection ↔ Refused chosen rejection
  fails : (∃ rejection, load = .error rejection) ↔
    ∃ name ∈ ["serializer_include_iso_time", "log_to_file"], ∃ t, chosen name (some t) ∧
      ∀ b, ¬ IsWord t b
  follow : ∀ (other : Environment) (otherFile : String),
    Sources.Clear other (EnvFile.bindings otherFile.toList) →
      Follow environment other file otherFile

/-- The settings are made of the texts that are chosen for their names, and are refused exactly if
a flag has one that is no word. -/
theorem settings_chosen (environment : Environment) (file : String)
    (clear : Sources.Clear environment (EnvFile.bindings file.toList)) :
    ChosenFrom environment file (Sources.Chosen environment (EnvFile.bindings file.toList))
      (Settings.load (Sources.of environment file)) := by
  have tells : Sources.Chosen environment (EnvFile.bindings file.toList) =
      fun name value => value = (Sources.of environment file).value? name := by
    funext name value
    exact propext (Sources.chosen_iff clear name value)
  have total : ∀ name, ∃ value,
      Sources.Chosen environment (EnvFile.bindings file.toList) name value :=
    fun name => ⟨_, Sources.chosen_value? clear name⟩
  constructor
  case unique =>
    intro name
    rw [tells]
    exact ⟨_, rfl, fun value same => same⟩
  case made =>
    rw [tells]
    exact load_eq_ok_iff _
  case refused =>
    rw [tells]
    exact load_eq_error_iff _
  case fails =>
    rw [← exists_refused_iff total, tells]
    exact exists_congr (load_eq_error_iff _)
  case follow => exact fun other otherFile otherClear => Settings.follow clear otherClear

def mixedVariables : Environment :=
  [("Log_Level", "debug"), ("log_DIR", ""), ("LEVEL", "warn"), ("LOG_COLOUR", "red")]

def mixedFile : String :=
  "LOG_LEVEL=warn\nlog_dir=d\nLOG_TO_FILE\nserializer_Include_Iso_Time=Yes\nTO_FILE=maybe\n"

def wordlessFile : String := "LOG_TO_FILE=maybe"

theorem settings_chosen_mixed :
    Settings.load (Sources.of mixedVariables mixedFile) =
        .ok ⟨⟨"TWS:TICKS:", true⟩, ⟨"debug", false, []⟩⟩ ∧
      Settings.load (Sources.of mixedVariables wordlessFile) =
        .error ⟨"LoggingSettings", [⟨"to_file", .flagSyntax⟩]⟩ := by
  have entries : EnvFile.bindings mixedFile.toList =
      [⟨"LOG_LEVEL".toList, some "warn".toList⟩, ⟨"log_dir".toList, some "d".toList⟩,
        ⟨"LOG_TO_FILE".toList, none⟩, ⟨"serializer_Include_Iso_Time".toList, some "Yes".toList⟩,
        ⟨"TO_FILE".toList, some "maybe".toList⟩] := by decide
  have entry : EnvFile.bindings wordlessFile.toList =
      [⟨"LOG_TO_FILE".toList, some "maybe".toList⟩] := by decide
  have made := (settings_chosen mixedVariables mixedFile
    (by rw [entries]; exact ⟨by decide, by decide, by decide⟩)).made
  have refused := (settings_chosen mixedVariables wordlessFile
    (by rw [entry]; exact ⟨by decide, by decide, by decide⟩)).refused
  rw [entries] at made
  rw [entry] at refused
  constructor
  · have level : ("Log_Level".toList, Text.ofString "debug") ∈ Sources.named mixedVariables := by
      decide
    have dir : ("log_DIR".toList, Text.ofString "") ∈ Sources.named mixedVariables := by
      decide
    have yes : IsWord (Text.ofChars "Yes".toList) true := ⟨_, rfl, by decide⟩
    refine (made _).mpr ⟨?channelPrefix, ?includeIsoTime, ?level, ?toFile, ?dir⟩
    case channelPrefix => exact ⟨none, .none (by decide) (by decide), rfl⟩
    case includeIsoTime =>
      exact ⟨_, .ofEntry (by decide) (List.mem_of_getElem? (i := 3) rfl) (by decide) rfl, yes⟩
    case level => exact ⟨_, .ofVariable level (by decide), rfl⟩
    case toFile => exact ⟨none, .none (by decide) (by decide), rfl⟩
    case dir => exact ⟨_, .ofVariable dir (by decide), rfl⟩
  · have iso : Sources.Chosen mixedVariables [⟨"LOG_TO_FILE".toList, some "maybe".toList⟩]
        "serializer_include_iso_time" none := .none (by decide) (by decide)
    have file : Sources.Chosen mixedVariables [⟨"LOG_TO_FILE".toList, some "maybe".toList⟩]
        "log_to_file" (some (Text.ofChars "maybe".toList)) :=
      .ofEntry (by decide) (List.mem_singleton_self _) (by decide) rfl
    have down : Tells none false := rfl
    have fault : ∀ b, ¬ IsWord (Text.ofChars "maybe".toList) b := by
      intro b word
      cases (readFlag_text_ok_iff _ b).mpr word
    exact (refused _).mpr (.logging iso down file fault)

end Settings

end MarketSnapshot
