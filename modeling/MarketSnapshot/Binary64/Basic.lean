namespace MarketSnapshot

namespace Binary64

def Canonical (mantissa shift : Nat) : Prop :=
  mantissa < Nat.pow 2 53 ∧ shift ≤ 2045 ∧ (shift = 0 ∨ Nat.pow 2 52 ≤ mantissa)

instance (mantissa shift : Nat) : Decidable (Canonical mantissa shift) :=
  inferInstanceAs (Decidable (_ ∧ _ ∧ (_ ∨ _)))

/-- The number `± mantissa * 2 ^ shift / 2 ^ 1074`. Zero keeps its sign. -/
structure Finite where
  negative : Bool
  mantissa : Nat
  shift : Nat
  canonical : Canonical mantissa shift
deriving DecidableEq

def places : Nat := 1074

def unitsPerOne : Nat := Nat.pow 2 places

namespace Finite

def magnitude (x : Finite) : Nat := x.mantissa * Nat.pow 2 x.shift

def units (x : Finite) : Int := if x.negative then -x.magnitude else x.magnitude

def isIntegral (x : Finite) : Bool := x.magnitude % unitsPerOne == 0

def truncate (x : Finite) : Int :=
  let whole : Int := x.magnitude / unitsPerOne
  if x.negative then -whole else whole

end Finite

end Binary64

inductive Binary64 where
  | nan
  | infinite (negative : Bool)
  | finite (x : Binary64.Finite)
deriving DecidableEq

namespace Binary64

def pack (negative : Bool) (mantissa shift : Nat) : Binary64 :=
  if h : Canonical mantissa shift then .finite ⟨negative, mantissa, shift, h⟩
  else .infinite negative

def zero : Binary64 := pack false 0 0

def one : Binary64 := pack false (Nat.pow 2 52) 1022

def isTrue : Binary64 → Bool
  | .finite x => x.mantissa ≠ 0
  | _ => true

def same : Binary64 → Binary64 → Bool
  | .finite x, .finite y => x.units == y.units
  | .infinite s, .infinite t => s == t
  | _, _ => false

def sameInt (x : Binary64) (n : Int) : Bool :=
  match x with
  | .finite x => x.units == n * unitsPerOne
  | _ => false

def less : Binary64 → Binary64 → Bool
  | .finite x, .finite y => x.units < y.units
  | .infinite s, .finite _ => s
  | .finite _, .infinite t => !t
  | .infinite s, .infinite t => s && !t
  | _, _ => false

def lessInt (x : Binary64) (n : Int) : Bool :=
  match x with
  | .finite x => x.units < n * unitsPerOne
  | .infinite s => s
  | .nan => false

def intLess (n : Int) (x : Binary64) : Bool :=
  match x with
  | .finite x => n * unitsPerOne < x.units
  | .infinite s => !s
  | .nan => false

theorem pack_of_canonical (negative : Bool) {mantissa shift : Nat} (h : Canonical mantissa shift) :
    pack negative mantissa shift = .finite ⟨negative, mantissa, shift, h⟩ := by simp [pack, h]

end Binary64

end MarketSnapshot
