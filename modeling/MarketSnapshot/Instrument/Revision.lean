import MarketSnapshot.Instrument.Draft

namespace MarketSnapshot.Draft

def store (draft : Draft) (name : String) (v : Value) : Except Error Draft :=
  match name with
  | "__dict__" =>
    match v with
    | .dict entries => .ok { draft with entries }
    | v => .error (.notTable v.kind)
  | "__pydantic_extra__" => .ok { draft with spare := v }
  | "__pydantic_private__" => .ok { draft with concealed := v }
  | "__pydantic_fields_set__" => .ok { draft with given := some v }
  | "__class__" => .error (.notClass v.kind)
  | "__weakref__" => .error (.readOnly name)
  | "__fields__" | "__fields_set__" => .error (.noSetter draft.kind.subject name)
  | name => .ok { draft with entries := Table.put draft.entries name v }

def namedSetter? (draft : Draft) (name : String) : Except Value.AccessError (Option Value) :=
  match draft.standIn? .setters with
  | none => .ok none
  | some setters => do
    let entries ← setters.entriesFor "get"
    match Table.find? entries name with
    | none | some .null => return none
    | some setter => return some setter

/-- Assigns to a name. A setter that an entry stands in for cannot be called. Otherwise records are
frozen, but a name that begins with an underscore is not held to be a field. -/
def assign (draft : Draft) (name : String) (v : Value) : Except Error Draft := do
  match ← (draft.namedSetter? name).mapError .access with
  | some setter => throw (.access setter.notCallable)
  | none =>
    match draft.standIn? .setter with
    | some setter => throw (.access setter.notCallable)
    | none =>
      if name.toList.head? = some '_' then draft.store name v
      else throw (.rejected ⟨draft.kind.subject, [⟨name, .frozen⟩]⟩)

def assignTo (draft : Draft) (name v : Value) : Except Error Draft :=
  match name with
  | .text t => draft.assign t.repaired v
  | name => .error (.nameNotText name.kind)

/-- A record can be copied unless an entry stands in for its copier or duplicator, or what it
conceals is no dictionary. -/
def copyable (draft : Draft) : Except Value.AccessError Unit :=
  match draft.standIn? .copier, draft.standIn? .duplicator, draft.concealed with
  | some v, _, _ => .error v.notCallable
  | none, some v, _ => .error v.notCallable
  | none, none, .null => .ok ()
  | none, none, v => (v.entriesFor "items").map fun _ => ()

def keepsSpare (draft : Draft) : Except Value.AccessError Bool :=
  match draft.standIn? .settings with
  | none => .ok false
  | some settings => do
    let entries ← settings.entriesFor "get"
    return ((Table.find? entries "extra").getD .null).agrees (.string "allow")

def declares (draft : Draft) (name : String) : Except Value.AccessError Bool :=
  match draft.standIn? .declaration with
  | none => .ok (draft.kind.fieldNames.any (· = name))
  | some names => names.has name

def putSpare (draft : Draft) (name : String) (v : Value) : Except Error Draft := do
  let draft ←
    match draft.spare with
    | .null => draft.assign "__pydantic_extra__" (.dict [])
    | _ => .ok draft
  let spare ← (draft.spare.withItem name v).mapError .access
  return { draft with spare }

def sortIn (draft : Draft) (changes : Entries) : Except Error Draft :=
  changes.foldlM (fun copy change => do
    if ← (draft.declares change.1).mapError .access then
      return { copy with entries := Table.put copy.entries change.1 change.2 }
    else copy.putSpare change.1 change.2) draft

/-- Adds names to those that were given. What stands in for their set takes none, save that a
dictionary takes each name of two characters as a key with its value. -/
def giveNames (draft : Draft) (names : List String) : Except Error Unit :=
  match draft.given with
  | none => .ok ()
  | some v => do
    let _ ← (v.entriesFor "update").mapError .access
    match names.zipIdx.find? fun name => name.1.length != 2 with
    | some (name, position) => throw (.notPair position name.length)
    | none => return ()

def amend (draft : Draft) (changes : Entries) : Except Error Draft := do
  draft.copyable.mapError .access
  if changes.isEmpty then return draft
  let copy ←
    if ← draft.keepsSpare.mapError .access then draft.sortIn changes
    else .ok { draft with entries := Table.merge draft.entries changes }
  copy.giveNames (Table.keys changes)
  return copy

def family? (draft : Draft) : Except Value.AccessError (Option Value) :=
  match draft.standIn? .family with
  | none => .ok none
  | some v => do
    let origin ← v.item "origin"
    return if origin.isTrue then some origin else none

def agreesFamily (draft other : Draft) : Except Value.AccessError Bool := do
  match ← draft.family?, ← other.family? with
  | none, none => return draft.kind == other.kind
  | some v, some w => return v.agrees w
  | _, _ => return false

def agreesAt (draft other : Draft) (name : String) : Bool :=
  match Table.find? draft.entries name, Table.find? other.entries name with
  | some v, some w => v.agrees w
  | none, none => true
  | _, _ => false

/-- Equal in family, in what is concealed and spare, and field by field. A spare part that answers
for nothing counts as none. -/
def agrees (draft other : Draft) : Except Error Bool := do
  let family ← (draft.agreesFamily other).mapError .access
  return family && draft.concealed.agrees other.concealed
    && (draft.spare.orElse .null).agrees (other.spare.orElse .null)
    && draft.kind.fieldNames.all (draft.agreesAt other)

end MarketSnapshot.Draft
