import MarketSnapshot.Binary64.Shortest

namespace MarketSnapshot.Binary64

/-- From which to which decimal exponent a number is written positionally, and how many digits an
exponent has at least. -/
structure Layout where
  lowest : Int
  highest : Int
  exponentWidth : Nat

def Layout.display : Layout := ⟨-4, 15, 2⟩

def Layout.compact : Layout := ⟨-5, 15, 1⟩

/-- Digits without trailing zeros, most significant first, with the exponent of the first digit. -/
structure Scientific where
  digits : List Char
  exponent : Int

def Scientific.ofDecimal (d : Decimal) : Scientific :=
  let all := Nat.toDigits 10 d.digits
  let digits := (all.reverse.dropWhile (· == '0')).reverse
  ⟨if digits.isEmpty then ['0'] else digits, d.exponent + all.length - 1⟩

def scientific (x : Finite) : Scientific :=
  if x.mantissa = 0 then ⟨['0'], 0⟩ else Scientific.ofDecimal (shortest x)

def padded (width : Nat) (digits : List Char) : List Char :=
  List.replicate (width - digits.length) '0' ++ digits

def paddedNat (width n : Nat) : List Char := padded width (Nat.toDigits 10 n)

def positional (s : Scientific) : List Char :=
  if s.exponent < 0 then
    '0' :: '.' :: List.replicate (s.exponent.natAbs - 1) '0' ++ s.digits
  else
    let whole := s.exponent.natAbs + 1
    let fraction := s.digits.drop whole
    s.digits.take whole ++ List.replicate (whole - s.digits.length) '0'
      ++ '.' :: (if fraction.isEmpty then ['0'] else fraction)

def exponential (width : Nat) (s : Scientific) : List Char :=
  let sign := if s.exponent < 0 then '-' else '+'
  let exponent := 'e' :: sign :: paddedNat width s.exponent.natAbs
  match s.digits with
  | first :: second :: rest => first :: '.' :: second :: rest ++ exponent
  | digits => digits ++ exponent

def Layout.write (layout : Layout) (x : Finite) : List Char :=
  let s := scientific x
  let body :=
    if layout.lowest ≤ s.exponent ∧ s.exponent ≤ layout.highest then positional s
    else exponential layout.exponentWidth s
  if x.negative then '-' :: body else body

def display : Binary64 → String
  | .nan => "nan"
  | .infinite negative => if negative then "-inf" else "inf"
  | .finite x => String.ofList (Layout.display.write x)

end MarketSnapshot.Binary64
