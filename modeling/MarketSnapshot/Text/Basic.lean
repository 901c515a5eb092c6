namespace MarketSnapshot

/-- One code point: a character, or a surrogate that stands alone, counted from U+D800. -/
inductive Glyph where
  | char (c : Char)
  | surrogate (offset : Fin 2048)
deriving DecidableEq

namespace Glyph

def code : Glyph → Nat
  | .char c => c.toNat
  | .surrogate offset => 0xD800 + offset.val

def ofCode? (n : Nat) : Option Glyph :=
  if h : 0xD800 ≤ n ∧ n < 0xE000 then
    some (.surrogate ⟨n - 0xD800, by omega⟩)
  else if n.isValidChar then
    some (.char (Char.ofNat n))
  else
    none

def char? : Glyph → Option Char
  | .char c => some c
  | .surrogate _ => none

end Glyph

abbrev Text := List Glyph

namespace Text

def ofChars (cs : List Char) : Text := cs.map .char

def ofString (s : String) : Text := ofChars s.toList

instance : Coe String Text := ⟨ofString⟩

def Encodable (t : Text) : Prop := ∀ g ∈ t, g.char?.isSome = true

instance (t : Text) : Decidable t.Encodable :=
  inferInstanceAs (Decidable (∀ g ∈ t, g.char?.isSome = true))

def chars? : Text → Option (List Char)
  | [] => some []
  | .char c :: rest => (chars? rest).map (c :: ·)
  | .surrogate _ :: _ => none

def string? (t : Text) : Option String := t.chars?.map String.ofList

def replacement : Char := Char.ofNat 0xFFFD

/-- The text with each surrogate replaced, byte by byte of the three it would take. -/
def repaired (t : Text) : String :=
  String.ofList <| t.flatMap fun g =>
    match g with
    | .char c => [c]
    | .surrogate _ => [replacement, replacement, replacement]

def precedes : Text → Text → Bool
  | _, [] => false
  | [], _ :: _ => true
  | g :: s, h :: t => g.code < h.code || (g.code == h.code && precedes s t)

@[simp] theorem chars?_ofChars (cs : List Char) : (ofChars cs).chars? = some cs := by
  induction cs with
  | nil => rfl
  | cons c cs ih => simp_all [ofChars, chars?]

theorem ofChars_of_chars? {t : Text} {cs : List Char} (h : t.chars? = some cs) :
    t = ofChars cs := by
  induction t generalizing cs with
  | nil => simp_all [chars?, ofChars]
  | cons g t ih =>
    cases g with
    | char c =>
      obtain ⟨rest, found, rfl⟩ := Option.map_eq_some_iff.1 h
      simp [ofChars, ih found]
    | surrogate offset => simp [chars?] at h

@[simp] theorem string?_ofString (s : String) : (ofString s).string? = some s := by
  simp [string?, ofString]

theorem ofString_of_string? {t : Text} {s : String} (found : t.string? = some s) :
    t = ofString s := by
  obtain ⟨cs, chars, rfl⟩ := Option.map_eq_some_iff.mp found
  simpa [ofString] using ofChars_of_chars? chars

theorem chars?_eq_some_iff {t : Text} {cs : List Char} : t.chars? = some cs ↔ t = ofChars cs :=
  ⟨ofChars_of_chars?, fun h => h ▸ chars?_ofChars cs⟩

theorem encodable_iff (t : Text) : t.Encodable ↔ t.chars?.isSome = true := by
  induction t with
  | nil => simp [Encodable, chars?]
  | cons g t ih =>
    cases g with
    | char c => simp_all [Encodable, chars?, Glyph.char?]
    | surrogate offset => simp [Encodable, chars?, Glyph.char?]

end Text

end MarketSnapshot
