import MarketSnapshot.Binary64.Rounding

namespace MarketSnapshot.Binary64

def decimalExponent (num den : Nat) : Int :=
  if den ≤ num then
    digitCount (num / den) - 1
  else
    let places := digitCount (den / num)
    if den ≤ num * Nat.pow 10 (places - 1) then 1 - places else -places

def scaled (num den : Nat) (exponent : Int) : Nat × Nat :=
  let power := Nat.pow 10 exponent.natAbs
  if exponent < 0 then (num * power, den) else (num, den * power)

/-- The neighbours of a ratio on the grid of `10 ^ exponent`, the nearer one first. -/
def neighbours (num den : Nat) (exponent : Int) : List Decimal :=
  let (num, den) := scaled num den exponent
  let lower := num / den
  let twice := 2 * (num % den)
  let down : Decimal := ⟨lower, exponent⟩
  let up : Decimal := ⟨lower + 1, exponent⟩
  if twice < den then [down, up]
  else if den < twice then [up, down]
  else if lower % 2 = 0 then [down, up]
  else [up, down]

def exactDecimal (x : Finite) : Decimal := ⟨x.magnitude * Nat.pow 5 places, -places⟩

def shortestCandidates (x : Finite) : List Decimal :=
  let exponent := decimalExponent x.magnitude unitsPerOne
  (List.range 17).flatMap fun (n : Nat) => neighbours x.magnitude unitsPerOne (exponent - n)

/-- With as few digits as read back as the number. -/
def shortest (x : Finite) : Decimal :=
  ((shortestCandidates x).find? fun d => ofDecimal x.negative d == .finite x).getD (exactDecimal x)

end MarketSnapshot.Binary64
