import Mathlib.Data.List.Forall2
import Mathlib.Data.List.Nodup
import MarketSnapshot.Instrument.Update

namespace MarketSnapshot

theorem encodable_nil : Text.Encodable [] := by simp [Text.Encodable]

namespace Field

def IsInt64 (n : Int) : Prop := integerMinimum ≤ n ∧ n ≤ integerMaximum

instance (n : Int) : Decidable (IsInt64 n) := inferInstanceAs (Decidable (_ ∧ _))

theorem isInt64_zero : IsInt64 0 := by decide

theorem isInt64_max {m n : Int} (left : IsInt64 m) (right : IsInt64 n) : IsInt64 (max m n) := by
  unfold IsInt64 at *
  omega

namespace Checked

variable {α β : Type}

theorem apply_eq_valid_iff (f : Checked (α → β)) (x : Checked α) (b : β) :
    f.apply x = .valid b ↔ ∃ g a, f = .valid g ∧ x = .valid a ∧ g a = b := by
  cases f <;> cases x <;> simp [apply]

theorem also_eq_valid_iff (x : Checked α) (more : List Issue) (a : α) :
    x.also more = .valid a ↔ x = .valid a ∧ more = [] := by
  cases x <;> cases more <;> simp [also]

theorem result_eq_ok_iff (subject : String) (x : Checked α) (a : α) :
    x.result subject = .ok a ↔ x = .valid a := by
  cases x <;> simp [result]

end Checked

def Checked.Holds {α : Type} (x : Checked α) (property : α → Prop) : Prop :=
  ∀ a, x = .valid a → property a

namespace Checked.Holds

variable {α β : Type}

theorem valid {property : α → Prop} {a : α} (holds : property a) :
    (Checked.valid a).Holds property := by
  intro b same
  cases same
  exact holds

theorem apply {property : β → Prop} {argument : α → Prop} {f : Checked (α → β)} {x : Checked α}
    (function : f.Holds fun g => ∀ a, argument a → property (g a)) (value : x.Holds argument) :
    (f.apply x).Holds property := by
  intro b same
  obtain ⟨g, a, left, right, rfl⟩ := (apply_eq_valid_iff f x b).mp same
  exact function g left a (value a right)

theorem also {property : α → Prop} {x : Checked α} (value : x.Holds property)
    (more : List Issue) : (x.also more).Holds property :=
  fun a same => value a ((also_eq_valid_iff x more a).mp same).1

end Checked.Holds

theorem ofReader_eq_valid_iff {α : Type} (name : String) (read : Reader α) (v : Value) (a : α) :
    ofReader name read v = .valid a ↔ read v = .ok a := by
  unfold ofReader
  cases read v <;> simp

theorem readInt64_sound (v : Value) (n : Int) (accepted : readInt64 v = .ok n) : IsInt64 n := by
  unfold readInt64 at accepted
  cases outcome : readInteger v with
  | error cause => simp [outcome] at accepted
  | ok m =>
    simp only [outcome] at accepted
    split at accepted
    · cases accepted
    · split at accepted
      · cases accepted
      · cases accepted
        unfold IsInt64
        omega

theorem readInt64_int (n m : Int) : readInt64 (.int n) = .ok m ↔ IsInt64 n ∧ n = m := by
  simp only [readInt64, readInteger]
  constructor
  · intro accepted
    split at accepted
    · cases accepted
    · split at accepted
      · cases accepted
      · cases accepted
        unfold IsInt64
        omega
  · rintro ⟨⟨low, high⟩, rfl⟩
    rw [if_neg (by omega), if_neg (by omega)]

theorem readEncodableText_sound (v : Value) (t : Text) (accepted : readEncodableText v = .ok t) :
    t.Encodable := by
  cases v with
  | text s =>
    simp only [readEncodableText] at accepted
    split at accepted
    · rename_i encodable
      cases accepted
      exact encodable
    · cases accepted
  | _ => simp [readEncodableText] at accepted

theorem readEncodableText_text (s t : Text) :
    readEncodableText (.text s) = .ok t ↔ s.Encodable ∧ s = t := by
  unfold readEncodableText
  by_cases encodable : s.Encodable <;> simp [encodable]

inductive Kind where
  | integer
  | number
  | flag
  | text
  | side
deriving DecidableEq

namespace Kind

def read : Kind → Reader Value
  | .integer => fun v => (readInt64 v).map .int
  | .number => fun v => (readNumber v).map .float
  | .flag => fun v => (readFlag v).map .bool
  | .text => fun v => (readEncodableText v).map .text
  | .side => fun v => (Side.read v).map fun side => .string side.name

def Holds : Kind → Value → Prop
  | .integer => fun v => ∃ n, v = .int n ∧ IsInt64 n
  | .number => fun v => ∃ x, v = .float x
  | .flag => fun v => ∃ b, v = .bool b
  | .text => fun v => ∃ t, v = .text t ∧ t.Encodable
  | .side => fun v => v = .string "bid_ask" ∨ v = .string "all_last"

theorem map_eq_ok_iff {ε α β : Type} {x : Except ε α} {f : α → β} {b : β} :
    x.map f = .ok b ↔ ∃ a, x = .ok a ∧ f a = b := by
  cases x <;> simp [Except.map]

theorem holds_of_read {kind : Kind} {v w : Value} (accepted : kind.read v = .ok w) :
    kind.Holds w := by
  cases kind with
  | integer =>
    obtain ⟨n, read, rfl⟩ := map_eq_ok_iff.mp accepted
    exact ⟨n, rfl, readInt64_sound v n read⟩
  | number =>
    obtain ⟨x, _, rfl⟩ := map_eq_ok_iff.mp accepted
    exact ⟨x, rfl⟩
  | flag =>
    obtain ⟨b, _, rfl⟩ := map_eq_ok_iff.mp accepted
    exact ⟨b, rfl⟩
  | text =>
    obtain ⟨t, read, rfl⟩ := map_eq_ok_iff.mp accepted
    exact ⟨t, rfl, readEncodableText_sound v t read⟩
  | side =>
    obtain ⟨side, _, rfl⟩ := map_eq_ok_iff.mp accepted
    cases side with
    | bidAsk => exact .inl rfl
    | allLast => exact .inr rfl

theorem read_of_holds {kind : Kind} {v : Value} (holds : kind.Holds v) : kind.read v = .ok v := by
  cases kind with
  | integer =>
    obtain ⟨n, rfl, range⟩ := holds
    exact map_eq_ok_iff.mpr ⟨n, (readInt64_int n n).mpr ⟨range, rfl⟩, rfl⟩
  | number =>
    obtain ⟨x, rfl⟩ := holds
    rfl
  | flag =>
    obtain ⟨b, rfl⟩ := holds
    rfl
  | text =>
    obtain ⟨t, rfl, encodable⟩ := holds
    exact map_eq_ok_iff.mpr ⟨t, (readEncodableText_text t t).mpr ⟨encodable, rfl⟩, rfl⟩
  | side => rcases holds with rfl | rfl <;> rfl

end Kind

/-- How a record declares a field. A field without a default has to be given. -/
structure Rule where
  name : String
  kind : Kind
  default? : Option Value
  default_holds : ∀ v, default? = some v → kind.Holds v

namespace Rule

def required (name : String) (kind : Kind) : Rule := ⟨name, kind, none, by simp⟩

def integer (name : String) : Rule :=
  ⟨name, .integer, some (.int 0), by rintro v ⟨⟩; exact ⟨0, rfl, isInt64_zero⟩⟩

def number (name : String) : Rule :=
  ⟨name, .number, some (.float Binary64.zero), by rintro v ⟨⟩; exact ⟨_, rfl⟩⟩

def flag (name : String) : Rule :=
  ⟨name, .flag, some (.bool false), by rintro v ⟨⟩; exact ⟨_, rfl⟩⟩

def text (name : String) : Rule :=
  ⟨name, .text, some (.text []), by rintro v ⟨⟩; exact ⟨_, rfl, encodable_nil⟩⟩

def outcome (rule : Rule) : Option Value → Except Cause Value
  | some v => rule.kind.read v
  | none => rule.default?.elim (.error .missing) .ok

def issue? (rule : Rule) (given : Entries) : Option Issue :=
  match rule.outcome (Table.find? given rule.name) with
  | .ok _ => none
  | .error cause => some ⟨some rule.name, cause⟩

theorem holds_of_outcome {rule : Rule} {given : Option Value} {w : Value}
    (accepted : rule.outcome given = .ok w) : rule.kind.Holds w := by
  cases given with
  | some v => exact Kind.holds_of_read accepted
  | none =>
    cases left_out : rule.default? with
    | none => simp [outcome, left_out] at accepted
    | some v =>
      simp only [outcome, left_out, Option.elim_some, Except.ok.injEq] at accepted
      subst accepted
      exact rule.default_holds v left_out

theorem exists_outcome_iff (rule : Rule) (given : Option Value) :
    (∃ w, rule.outcome given = .ok w) ↔
      (rule.default? = none → given.isSome = true) ∧
        ∀ v, given = some v → ∃ w, rule.kind.read v = .ok w := by
  cases given <;> cases left_out : rule.default? <;> simp [outcome, left_out]

theorem issue?_eq_none_iff (rule : Rule) (given : Entries) :
    rule.issue? given = none ↔ ∃ v, rule.outcome (Table.find? given rule.name) = .ok v := by
  unfold issue?
  split <;> simp_all

theorem fields_issues_sublist (rules : List Rule) (given : Entries) :
    ((rules.filterMap (·.issue? given)).map Issue.field).Sublist
      (rules.map (some ∘ Rule.name)) := by
  induction rules with
  | nil => exact .slnil
  | cons rule rules ih =>
    cases outcome : rule.outcome (Table.find? given rule.name) with
    | ok v => simpa [issue?, outcome] using ih.cons (some rule.name)
    | error cause => simpa [issue?, outcome] using ih.cons_cons (some rule.name)

end Rule

def Rule.Makes (given : Entries) (rule : Rule) (field : String × Value) : Prop :=
  field.1 = rule.name ∧ rule.outcome (Table.find? given rule.name) = .ok field.2

def Rule.Fits (rule : Rule) (field : String × Value) : Prop :=
  field.1 = rule.name ∧ rule.kind.Holds field.2

section Fits

variable (name : String)

@[simp] theorem fits_required (kind : Kind) (v : Value) :
    (Rule.required name kind).Fits (name, v) ↔ kind.Holds v := by
  simp [Rule.Fits, Rule.required]

@[simp] theorem fits_integer (v : Value) :
    (Rule.integer name).Fits (name, v) ↔ ∃ n, v = .int n ∧ IsInt64 n := by
  simp [Rule.Fits, Rule.integer, Kind.Holds]

@[simp] theorem fits_number (x : Binary64) : (Rule.number name).Fits (name, .float x) := by
  simp [Rule.Fits, Rule.number, Kind.Holds]

@[simp] theorem fits_flag (b : Bool) : (Rule.flag name).Fits (name, .bool b) := by
  simp [Rule.Fits, Rule.flag, Kind.Holds]

@[simp] theorem fits_text (t : Text) :
    (Rule.text name).Fits (name, .text t) ↔ t.Encodable := by
  simp [Rule.Fits, Rule.text, Kind.Holds]

end Fits

theorem Rejection.message_eq (rejection : Rejection) :
    rejection.message =
      if rejection.issues.length = 1 then s!"1 validation error for {rejection.subject}"
      else s!"{rejection.issues.length} validation errors for {rejection.subject}" := by
  have words : toString " validation errors for " = " " ++ ("validation errors" ++ " for ") := by
    decide
  by_cases one : rejection.issues.length = 1
  · simp only [message, one, if_true]
    rfl
  · simp only [message, one, if_false, words, String.append_assoc]
    rfl

structure ReadBy {α : Type} (subject : String) (rules : List Rule)
    (read : Entries → Except Rejection α) (fields : α → Entries) : Prop where
  distinct : (rules.map Rule.name).Nodup
  /-- A record is accepted exactly if every field that has to be there is, each that is there is
  accepted by itself, and no other name is. -/
  accepts : ∀ given, (∃ a, read given = .ok a) ↔
    (∀ rule ∈ rules,
      (rule.default? = none → (Table.find? given rule.name).isSome = true) ∧
        ∀ v, Table.find? given rule.name = some v → ∃ w, rule.kind.read v = .ok w) ∧
    ∀ name ∈ Table.keys given, name ∈ rules.map Rule.name
  /-- Then each field holds what its rule makes of its own value, or of none. -/
  makes : ∀ given a, read given = .ok a → List.Forall₂ (Rule.Makes given) rules (fields a)
  fits : ∀ given a, read given = .ok a → List.Forall₂ Rule.Fits rules (fields a)
  /-- A refusal has the issue of each field that its rule refuses, in the order of the rules, and
  then one for each name without a rule, in the order given. Its message counts them. -/
  refuses : ∀ given rejection, read given = .error rejection →
    rejection.subject = subject ∧
    rejection.issues = rules.filterMap (·.issue? given) ++
      ((Table.keys given).filter (· ∉ rules.map Rule.name)).map (⟨some ·, .unexpected⟩) ∧
    rejection.issues ≠ [] ∧
    ((Table.keys given).Nodup → (rejection.issues.map Issue.field).Nodup) ∧
    rejection.message =
      if rejection.issues.length = 1 then s!"1 validation error for {subject}"
      else s!"{rejection.issues.length} validation errors for {subject}"

def named (given : Entries) : Table Text Value :=
  given.map fun entry => (Text.ofString entry.1, entry.2)

theorem decoded?_named (given : Entries) : decoded? (named given) = some given := by
  induction given with
  | nil => rfl
  | cons entry given ih =>
    unfold decoded? named at ih ⊢
    simp [List.mapM_cons, ih]

theorem named_of_decoded? {fields : Table Text Value} {entries : Entries}
    (decoded : decoded? fields = some entries) : named entries = fields := by
  induction fields generalizing entries with
  | nil => cases decoded; rfl
  | cons field fields ih =>
    simp only [decoded?, List.mapM_cons, Option.pure_def, Option.bind_eq_bind,
      Option.bind_eq_some_iff, Option.map_eq_some_iff, Option.some.injEq] at decoded
    obtain ⟨_, ⟨name, text, rfl⟩, others, later, rfl⟩ := decoded
    have same := Text.ofString_of_string? text
    rw [← ih later]
    exact congrArg (fun name => (name, field.2) :: named others) same.symm

theorem decoded?_eq_none {fields : Table Text Value} {name : Text}
    (given : name ∈ Table.keys fields) (cut : ¬ name.Encodable) : decoded? fields = none := by
  cases decoded : decoded? fields with
  | none => rfl
  | some entries =>
    rw [← named_of_decoded? decoded] at given
    obtain ⟨_, member, rfl⟩ := List.mem_map.mp given
    obtain ⟨entry, _, rfl⟩ := List.mem_map.mp member
    exact absurd (by simp [Text.encodable_iff, Text.ofString]) cut

theorem exists_named {fields : Table Text Value}
    (whole : ∀ name ∈ Table.keys fields, name.Encodable) : ∃ entries, named entries = fields := by
  induction fields with
  | nil => exact ⟨[], rfl⟩
  | cons field fields ih =>
    obtain ⟨entries, rfl⟩ := ih fun name member => whole name (List.mem_cons_of_mem _ member)
    obtain ⟨chars, text⟩ := Option.isSome_iff_exists.mp
      ((Text.encodable_iff field.1).mp (whole field.1 List.mem_cons_self))
    refine ⟨(String.ofList chars, field.2) :: entries, ?_⟩
    simp [named, Text.ofString, ← Text.ofChars_of_chars? text]

structure ReadNamedBy {α : Type} (subject : String) (rules : List Rule)
    (read : Table Text Value → Except Rejection α) (fields : α → Entries) : Prop where
  whole_names : ReadBy subject rules (fun given => read (named given)) fields
  exhaustive : ∀ given : Table Text Value,
    (∀ name ∈ Table.keys given, name.Encodable) → ∃ entries, named entries = given
  /-- A name without a UTF-8 form is the one thing that is said of the record. -/
  cut_names : ∀ given : Table Text Value, (∃ name ∈ Table.keys given, ¬ name.Encodable) →
    ∃ rejection, read given = .error rejection ∧ rejection.subject = subject ∧
      rejection.issues = [⟨none, .undecodable⟩] ∧
      rejection.message = s!"1 validation error for {subject}"

theorem ReadBy.readNamedBy {α : Type} {subject : String} {rules : List Rule}
    {read : Entries → Except Rejection α} {fields : α → Entries}
    (ruled : ReadBy subject rules read fields) :
    ReadNamedBy subject rules (readNamed subject read) fields where
  whole_names := by simpa only [readNamed, decoded?_named] using ruled
  exhaustive _ := exists_named
  cut_names := by
    rintro given ⟨name, member, cut⟩
    refine ⟨⟨subject, [⟨none, .undecodable⟩]⟩, ?_, rfl, rfl, Rejection.message_eq _⟩
    rw [readNamed, decoded?_eq_none member cut]

structure CheckedBy {α : Type} (rule : Rule) (given : Entries) (write : α → Value)
    (x : Checked α) : Prop where
  issues : x.issues = (rule.issue? given).toList
  outcome : x.Holds fun a => rule.outcome (Table.find? given rule.name) = .ok (write a)

section CheckedBy

variable {α : Type} {read : Reader α} {write : α → Value} (rule : Rule)
  (same : ∀ v, rule.kind.read v = (read v).map write)

include same

theorem checkedBy_ofReader {given : Entries} {v : Value}
    (found : Table.find? given rule.name = some v) :
    CheckedBy rule given write (ofReader rule.name read v) := by
  have outcome : rule.outcome (Table.find? given rule.name) = (read v).map write := by
    rw [found]
    exact same v
  constructor
  · unfold Rule.issue? ofReader
    rw [outcome]
    cases read v <;> rfl
  · intro a accepted
    rw [outcome, (ofReader_eq_valid_iff _ _ _ _).mp accepted]
    rfl

theorem checkedBy_required (needed : rule.default? = none) (given : Entries) :
    CheckedBy rule given write (Field.required given rule.name read) := by
  unfold Field.required
  cases found : Table.find? given rule.name with
  | some v => exact checkedBy_ofReader rule same found
  | none =>
    refine ⟨by simp [Rule.issue?, Rule.outcome, found, needed, Checked.issues], ?_⟩
    intro a accepted
    cases accepted

theorem checkedBy_optional {default : α} (start : rule.default? = some (write default))
    (given : Entries) :
    CheckedBy rule given write (Field.optional given rule.name read default) := by
  unfold Field.optional
  cases found : Table.find? given rule.name with
  | some v => exact checkedBy_ofReader rule same found
  | none =>
    refine ⟨by simp [Rule.issue?, Rule.outcome, found, start, Checked.issues], ?_⟩
    exact Checked.Holds.valid (by simp [Rule.outcome, found, start])

end CheckedBy

section Fields

variable (given : Entries) (name : String)

theorem checkedBy_integer :
    CheckedBy (.integer name) given .int (Field.optional given name readInt64 0) :=
  checkedBy_optional _ (fun _ => rfl) rfl given

theorem checkedBy_number :
    CheckedBy (.number name) given .float (Field.optional given name readNumber Binary64.zero) :=
  checkedBy_optional _ (fun _ => rfl) rfl given

theorem checkedBy_flag :
    CheckedBy (.flag name) given .bool (Field.optional given name readFlag false) :=
  checkedBy_optional _ (fun _ => rfl) rfl given

theorem checkedBy_text :
    CheckedBy (.text name) given .text (Field.optional given name readEncodableText []) :=
  checkedBy_optional _ (fun _ => rfl) rfl given

end Fields

theorem unexpected_eq (given : Entries) (declared : List String) :
    unexpected given declared =
      ((Table.keys given).filter (· ∉ declared)).map (⟨some ·, .unexpected⟩) := by
  unfold unexpected Table.keys
  rw [List.filter_map, List.map_map]
  rfl

theorem Checked.issues_valid {α : Type} (a : α) : (Checked.valid a).issues = [] := rfl

theorem Checked.result_eq_error_iff {α : Type} (subject : String) (x : Checked α)
    (rejection : Rejection) :
    x.result subject = .error rejection ↔
      rejection.subject = subject ∧ rejection.issues = x.issues ∧ x.issues ≠ [] := by
  obtain ⟨of, issues⟩ := rejection
  cases x <;> simp [result, Checked.issues, eq_comm]

/-- What a check has to report and to hold for its records to be read by rules. -/
theorem readBy_of_check {α : Type} {subject : String} {rules : List Rule}
    {check : Entries → Checked α} {fields : α → Entries}
    (distinct : (rules.map Rule.name).Nodup)
    (issues : ∀ given, (check given).issues =
      rules.filterMap (·.issue? given) ++ unexpected given (rules.map Rule.name))
    (values : ∀ given, (check given).Holds fun a =>
      List.Forall₂ (Rule.Makes given) rules (fields a)) :
    ReadBy subject rules (fun given => (check given).result subject) fields where
  distinct := distinct
  accepts := by
    intro given
    have clean : (∃ a, (check given).result subject = .ok a) ↔ (check given).issues = [] := by
      simp only [Checked.result_eq_ok_iff, Checked.issues_eq_nil_iff]
    rw [clean, issues, unexpected_eq, List.append_eq_nil_iff, List.filterMap_eq_nil_iff,
      List.map_eq_nil_iff, List.filter_eq_nil_iff]
    simp only [Rule.issue?_eq_none_iff, Rule.exists_outcome_iff, decide_not, Bool.not_eq_true',
      decide_eq_false_iff_not, not_not]
  makes given a accepted := values given a ((Checked.result_eq_ok_iff _ _ _).mp accepted)
  fits := by
    intro given a accepted
    have made := values given a ((Checked.result_eq_ok_iff _ _ _).mp accepted)
    exact made.imp fun rule field makes => ⟨makes.1, Rule.holds_of_outcome makes.2⟩
  refuses := by
    intro given rejection refused
    obtain ⟨of, reported, some_issue⟩ := (Checked.result_eq_error_iff _ _ _).mp refused
    have listed := issues given
    rw [unexpected_eq, ← reported] at listed
    refine ⟨of, listed, reported ▸ some_issue, ?_, ?_⟩
    · intro keys
      rw [listed, List.map_append, List.map_map]
      have own_names : (rules.map (some ∘ Rule.name)).Nodup := by
        rw [← List.map_map]
        exact distinct.map fun _ _ same => Option.some.inj same
      refine ((Rule.fields_issues_sublist rules given).nodup own_names).append
        (keys.filter _ |>.map fun _ _ same => Option.some.inj same) ?_
      intro name declared other
      have ruled := (Rule.fields_issues_sublist rules given).subset declared
      obtain ⟨unruled_name, member, rfl⟩ := List.mem_map.mp other
      obtain ⟨rule, of_rules, same⟩ := List.mem_map.mp ruled
      have unruled := (List.mem_filter.mp member).2
      simp only [decide_not, Bool.not_eq_true', decide_eq_false_iff_not] at unruled
      exact unruled (List.mem_map.mpr ⟨rule, of_rules, Option.some.inj same⟩)
    · rw [← of]
      exact rejection.message_eq

theorem makes_of_fits {given : Entries} (distinct : (Table.keys given).Nodup)
    {rules : List Rule} {entries : Entries} (fits : List.Forall₂ Rule.Fits rules entries)
    (present : ∀ field ∈ entries, field ∈ given) :
    List.Forall₂ (Rule.Makes given) rules entries := by
  induction fits with
  | nil => exact .nil
  | @cons rule field rules entries fit _ ih =>
    obtain ⟨name, holds⟩ := fit
    have found : Table.find? given rule.name = some field.2 := by
      rw [← name]
      exact Table.find?_of_mem distinct (present field (by simp))
    refine .cons ⟨name, ?_⟩ (ih fun other member => present other (List.mem_cons_of_mem _ member))
    rw [found]
    exact Kind.read_of_holds holds

theorem names_of_fits {rules : List Rule} {entries : Entries}
    (fits : List.Forall₂ Rule.Fits rules entries) :
    Table.keys entries = rules.map Rule.name := by
  induction fits with
  | nil => rfl
  | cons fit _ ih => exact congrArg₂ List.cons fit.1 ih

theorem exists_made {given : Entries} {rules : List Rule} {entries : Entries}
    (makes : List.Forall₂ (Rule.Makes given) rules entries) {rule : Rule} (member : rule ∈ rules) :
    ∃ field, Rule.Makes given rule field := by
  induction makes with
  | nil => cases member
  | cons made _ ih =>
    rcases List.mem_cons.mp member with rfl | member
    · exact ⟨_, made⟩
    · exact ih member

theorem makes_unique {given : Entries} : Relator.RightUnique (Rule.Makes given) := by
  rintro rule ⟨name, v⟩ ⟨other, w⟩ ⟨rfl, made⟩ ⟨rfl, other_made⟩
  rw [made] at other_made
  cases other_made
  rfl

theorem ReadBy.read_arranged {α : Type} {subject : String} {rules : List Rule}
    {read : Entries → Except Rejection α} {fields : α → Entries}
    (ruled : ReadBy subject rules read fields) (faithful : Function.Injective fields) {a : α}
    (fits : List.Forall₂ Rule.Fits rules (fields a)) {given : Entries}
    (arranged : given.Perm (fields a)) : read given = .ok a := by
  have names : (Table.keys given).Perm (rules.map Rule.name) :=
    names_of_fits fits ▸ arranged.map Prod.fst
  have distinct : (Table.keys given).Nodup := names.nodup_iff.mpr ruled.distinct
  have makes := makes_of_fits distinct fits fun field member => arranged.mem_iff.mpr member
  have accepted : ∃ b, read given = .ok b := by
    refine (ruled.accepts given).mpr ⟨fun rule member => ?_, fun name => names.mem_iff.mp⟩
    obtain ⟨field, _, outcome⟩ := exists_made makes member
    exact (rule.exists_outcome_iff _).mp ⟨field.2, outcome⟩
  obtain ⟨b, read_b⟩ := accepted
  -- Each field is made of the same value in both records, and the fields tell the record.
  have same := makes_unique.forall₂ makes (ruled.makes given b read_b)
  rw [read_b, faithful same]

end Field

end MarketSnapshot
