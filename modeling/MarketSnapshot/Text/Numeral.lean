import MarketSnapshot.Binary64.Rounding
import MarketSnapshot.Text.Basic
import MarketSnapshot.Text.Blank
import MarketSnapshot.Text.Digit

namespace MarketSnapshot.Text.Numeral

def isDigit (c : Char) : Bool := '0' ≤ c && c ≤ '9'

def ofDigits (digits : List Char) : Nat :=
  digits.foldl (fun n c => 10 * n + (c.toNat - '0'.toNat)) 0

def integerLimit : Nat := 4300

inductive Outcome where
  | number (n : Int)
  | tooLong
  | malformed
deriving DecidableEq

def splitMinus : List Char → Bool × List Char
  | '-' :: rest => (true, rest)
  | cs => (false, cs)

/-- A minus sign or none, then digits without a leading zero. Too many digits are refused before
what follows them is looked at. -/
def plainInteger (cs : List Char) : Outcome :=
  let (negative, body) := splitMinus cs
  let digits := body.takeWhile isDigit
  match digits with
  | [] => .malformed
  | '0' :: _ => if body = ['0'] then .number 0 else .malformed
  | _ =>
    if integerLimit < digits.length then .tooLong
    else if digits.length < body.length then .malformed
    else .number (if negative then -(ofDigits digits : Int) else ofDigits digits)

def hasStrayUnderscore (cs : List Char) : Bool :=
  cs.head? == some '_' || cs.getLast? == some '_' || (cs.zip (cs.drop 1)).contains ('_', '_')

def withoutUnderscores (cs : List Char) : Option (List Char) :=
  if hasStrayUnderscore cs then none else some (cs.filter (· ≠ '_'))

/-- Drops leading zeros and the underscores among them, but not the last character before the end
or before the point. A minus sign after the zeros begins the number anew. `previous` is the
character dropped last. -/
def dropLeadingZeros (previous : Char) : List Char → Option (List Char)
  | [] => some [previous]
  | c :: rest =>
    if c = '0' ∨ c = '_' then dropLeadingZeros c rest
    else if c = '-' ∨ isDigit c then some (c :: rest)
    else if c = '.' then some (previous :: c :: rest)
    else none

def normalHead : List Char → Option (List Char)
  | [] => none
  | c :: rest =>
    if c = '0' then dropLeadingZeros c rest else if isDigit c then some (c :: rest) else none

def dropZeroFraction (cs : List Char) : List Char :=
  match cs.dropWhile (· ≠ '.') with
  | _ :: c :: fraction =>
    if (c :: fraction).all (· == '0') then cs.takeWhile (· ≠ '.') else cs
  | _ => cs

def tidyInteger (cs : List Char) : Option (List Char) :=
  let trimmed := trimBy isBlank cs
  let (negative, body) :=
    match trimmed with
    | '+' :: rest => (false, rest)
    | _ => splitMinus trimmed
  match normalHead body with
  | none => none
  | some normal =>
    match withoutUnderscores (dropZeroFraction normal) with
    | none => none
    | some digits => some (if negative then '-' :: digits else digits)

/-- The text as it stands, else its tidy form. Only of the text as it stands is it told that it is
too long. -/
def readInteger (cs : List Char) : Outcome :=
  match plainInteger cs with
  | .malformed =>
    match (tidyInteger cs).map plainInteger with
    | some (.number n) => .number n
    | _ => .malformed
  | outcome => outcome

def splitSign : List Char → Bool × List Char
  | '+' :: rest => (false, rest)
  | '-' :: rest => (true, rest)
  | cs => (false, cs)

def readExponent : List Char → Option Int
  | [] => some 0
  | c :: rest =>
    if c = 'e' ∨ c = 'E' then
      let (negative, digits) := splitSign rest
      if digits.isEmpty || !digits.all isDigit then none
      else some (if negative then -(ofDigits digits : Int) else ofDigits digits)
    else none

def readDecimal (cs : List Char) : Option Binary64.Decimal :=
  let whole := cs.takeWhile isDigit
  let rest := cs.dropWhile isDigit
  let (fraction, rest) :=
    match rest with
    | '.' :: more => (more.takeWhile isDigit, more.dropWhile isDigit)
    | _ => ([], rest)
  if whole.isEmpty && fraction.isEmpty then none
  else (readExponent rest).map fun e => ⟨ofDigits (whole ++ fraction), e - fraction.length⟩

def asciiChar : Glyph → Char
  | .surrogate _ => '?'
  | .char c =>
    if c.toNat < 127 then c
    else if isSpace c then ' '
    else match digitValue? c with
      | some d => Char.ofNat (48 + d)
      | none => '?'

def isAsciiBlank (c : Char) : Bool := c == ' ' || (9 ≤ c.toNat && c.toNat ≤ 13)

def readBinary64 (cs : List Char) : Option Binary64 :=
  let (negative, body) := splitSign cs
  let word := String.ofList (body.map Char.toLower)
  if word = "inf" ∨ word = "infinity" then some (.infinite negative)
  else if word = "nan" then some .nan
  else (readDecimal body).map (Binary64.readDecimal negative)

/-- As `readBinary64`, but blanks may surround the text; failing that, single underscores may
stand inside it. -/
def readLenientBinary64 (cs : List Char) : Option Binary64 :=
  match readBinary64 (trimBy isBlank cs) with
  | some x => some x
  | none => (withoutUnderscores cs).bind readBinary64

def dropGrouping (previous : Char) : List Char → Option (List Char)
  | [] => some []
  | [c] => if c = '_' then none else some [c]
  | c :: next :: rest =>
    if c = '_' then
      if isDigit previous && isDigit next then dropGrouping c (next :: rest) else none
    else (dropGrouping c (next :: rest)).map (c :: ·)

/-- As `readBinary64`, but blanks may surround the number, its digits may be of any script, and a
single underscore may stand between any two of them. -/
def readGroupedBinary64 (t : Text) : Option Binary64 :=
  (dropGrouping ' ' (trimBy isAsciiBlank (t.map asciiChar))).bind readBinary64

end MarketSnapshot.Text.Numeral
