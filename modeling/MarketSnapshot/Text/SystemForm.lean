import MarketSnapshot.Text.Quoted

namespace MarketSnapshot.Text

/-- The first run of glyphs that has no form, and the position of its first glyph. -/
structure SystemFault where
  position : Nat
  first : Glyph
  length : Nat
deriving DecidableEq

def SystemFault.message (fault : SystemFault) : String :=
  let place :=
    if fault.length = 1 then
      s!"character '{String.ofList (codeEscape fault.first.code)}' in position {fault.position}"
    else
      s!"characters in position {fault.position}-{fault.position + fault.length - 1}"
  "'utf-8' codec can't encode " ++ place ++ ": surrogates not allowed"

def isSurrogate : Glyph → Bool
  | .char _ => false
  | .surrogate _ => true

def hasSystemForm : Glyph → Bool
  | .char _ => true
  | .surrogate offset => 0x480 ≤ offset.val && offset.val < 0x500

def systemFaultFrom (position : Nat) : List Glyph → Option SystemFault
  | [] => none
  | g :: rest =>
    if hasSystemForm g then systemFaultFrom (position + 1) rest
    else some ⟨position, g, 1 + (rest.takeWhile isSurrogate).length⟩

def systemFault? (t : Text) : Option SystemFault := systemFaultFrom 0 t

def systemSize (t : Text) : Nat :=
  t.foldl (fun size g =>
    match g with
    | .char c => size + c.utf8Size
    | .surrogate _ => size + 1) 0

def singleByte? : Glyph → Option Nat
  | .char _ => none
  | .surrogate offset =>
    if 0x480 ≤ offset.val ∧ offset.val < 0x500 then some (offset.val - 0x400) else none

def leadByte? (b : Nat) : Option (Nat × Nat × Nat) :=
  if 0xC2 ≤ b ∧ b < 0xE0 then some (1, b - 0xC0, 0x80)
  else if 0xE0 ≤ b ∧ b < 0xF0 then some (2, b - 0xE0, 0x800)
  else if 0xF0 ≤ b ∧ b < 0xF5 then some (3, b - 0xF0, 0x10000)
  else none

def continued : Nat → Nat → Text → Option (Nat × Text)
  | 0, bits, rest => some (bits, rest)
  | _ + 1, _, [] => none
  | count + 1, bits, g :: rest =>
    match singleByte? g with
    | none => none
    | some b => if b < 0xC0 then continued count (64 * bits + (b - 0x80)) rest else none

/-- Puts a glyph before a text. A byte that begins a character and the bytes that end it become that
character. -/
def joinByte (g : Glyph) (t : Text) : Text :=
  match (singleByte? g).bind leadByte? with
  | none => g :: t
  | some (count, bits, least) =>
    match continued count bits t with
    | none => g :: t
    | some (code, rest) =>
      if least ≤ code ∧ code.isValidChar then .char (Char.ofNat code) :: rest else g :: t

def systemName (t : Text) : Text := t.foldr joinByte []

/-- The operating system ends a text at a null character, so none may stand in it. -/
def hasNull (t : Text) : Bool := t.contains (.char (Char.ofNat 0))

end MarketSnapshot.Text
