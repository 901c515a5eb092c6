import MarketSnapshot.Binary64.Basic

namespace MarketSnapshot.Binary64

def roundHalfEven (num den : Nat) : Nat :=
  let quotient := num / den
  let twice := 2 * (num % den)
  if twice < den then quotient
  else if den < twice then quotient + 1
  else if quotient % 2 = 0 then quotient
  else quotient + 1

def shiftFor (num den : Nat) : Nat := Nat.log2 (num * unitsPerOne / den) - 52

def nearest (negative : Bool) (num den : Nat) : Binary64 :=
  let shift := shiftFor num den
  let mantissa := roundHalfEven (num * unitsPerOne) (den * Nat.pow 2 shift)
  if mantissa = Nat.pow 2 53 then pack negative (Nat.pow 2 52) (shift + 1)
  else pack negative mantissa shift

def ofInt (n : Int) : Binary64 := nearest (n < 0) n.natAbs 1

structure Decimal where
  digits : Nat
  exponent : Int
deriving DecidableEq

def digitCount (n : Nat) : Nat := (Nat.toDigits 10 n).length

def ofDecimal (negative : Bool) (d : Decimal) : Binary64 :=
  let power := Nat.pow 10 d.exponent.natAbs
  if d.exponent < 0 then nearest negative d.digits power
  else nearest negative (d.digits * power) 1

/-- As `ofDecimal`, without building the power of ten where the size alone decides: from `10 ^ 310`
on a number is infinite, and below `10 ^ (-330)` it is zero. -/
def readDecimal (negative : Bool) (d : Decimal) : Binary64 :=
  let size : Int := digitCount d.digits + d.exponent
  if d.digits = 0 ∨ size < -330 then pack negative 0 0
  else if 310 < size then .infinite negative
  else ofDecimal negative d

end MarketSnapshot.Binary64
