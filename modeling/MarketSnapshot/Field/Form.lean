import MarketSnapshot.Field.Reader

namespace MarketSnapshot.Field

structure Issue where
  /-- None if the issue is with the record as a whole. -/
  field : Option String
  cause : Cause
deriving DecidableEq

inductive Checked (α : Type) where
  | valid (a : α)
  | invalid (first : Issue) (rest : List Issue)

namespace Checked

variable {α β : Type}

def issues : Checked α → List Issue
  | .valid _ => []
  | .invalid first rest => first :: rest

/-- Keeps the issues of both sides, those of the function first. -/
def apply : Checked (α → β) → Checked α → Checked β
  | .valid f, .valid a => .valid (f a)
  | .valid _, .invalid first rest => .invalid first rest
  | .invalid first rest, x => .invalid first (rest ++ x.issues)

def also (x : Checked α) (more : List Issue) : Checked α :=
  match x, more with
  | .valid a, [] => .valid a
  | .valid _, first :: rest => .invalid first rest
  | .invalid first rest, more => .invalid first (rest ++ more)

@[simp] theorem issues_apply (f : Checked (α → β)) (x : Checked α) :
    (f.apply x).issues = f.issues ++ x.issues := by
  cases f <;> cases x <;> simp [apply, issues]

@[simp] theorem issues_also (x : Checked α) (more : List Issue) :
    (x.also more).issues = x.issues ++ more := by
  cases x <;> cases more <;> simp [also, issues]

theorem issues_eq_nil_iff (x : Checked α) : x.issues = [] ↔ ∃ a, x = .valid a := by
  cases x <;> simp [issues]

end Checked

def ofReader {α : Type} (name : String) (read : Reader α) (v : Value) : Checked α :=
  match read v with
  | .ok a => .valid a
  | .error cause => .invalid ⟨name, cause⟩ []

def required {α : Type} (entries : Entries) (name : String) (read : Reader α) : Checked α :=
  match Table.find? entries name with
  | none => .invalid ⟨name, .missing⟩ []
  | some v => ofReader name read v

def optional {α : Type} (entries : Entries) (name : String) (read : Reader α) (default : α) :
    Checked α :=
  match Table.find? entries name with
  | none => .valid default
  | some v => ofReader name read v

def unexpected (entries : Entries) (declared : List String) : List Issue :=
  (entries.filter fun entry => entry.1 ∉ declared).map fun entry => ⟨entry.1, .unexpected⟩

structure Rejection where
  subject : String
  issues : List Issue

def Rejection.message (r : Rejection) : String :=
  let count := r.issues.length
  let noun := if count = 1 then "validation error" else "validation errors"
  s!"{count} {noun} for {r.subject}"

def Checked.result {α : Type} (subject : String) : Checked α → Except Rejection α
  | .valid a => .ok a
  | .invalid first rest => .error ⟨subject, first :: rest⟩

def decoded? (fields : Table Text Value) : Option Entries :=
  fields.mapM fun field => (Text.string? field.1).map (·, field.2)

/-- Reads fields whose names may be any texts. If one of the names has no UTF-8 form, the record is
refused as a whole and no field is looked at. -/
def readNamed {α : Type} (subject : String) (read : Entries → Except Rejection α)
    (fields : Table Text Value) : Except Rejection α :=
  match decoded? fields with
  | some entries => read entries
  | none => .error ⟨subject, [⟨none, .undecodable⟩]⟩

end MarketSnapshot.Field
