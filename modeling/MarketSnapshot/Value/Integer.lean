import MarketSnapshot.Text.Numeral
import MarketSnapshot.Text.Quoted
import MarketSnapshot.Value.Basic

namespace MarketSnapshot.Value

inductive IntegerError where
  | kind (name : String)
  | literal (t : Text)
  | digitCount (count : Nat)
  | notNumber
  | infinite
deriving DecidableEq

def IntegerError.message : IntegerError → String
  | .kind name =>
    "int() argument must be a string, a bytes-like object or a real number, not '" ++ name ++ "'"
  | .literal t =>
    "invalid literal for int() with base 10: " ++ String.ofList (t.quoted.toList.take 200)
  | .digitCount count =>
    s!"Exceeds the limit (4300 digits) for integer string conversion: value has {count} digits; "
      ++ "use sys.set_int_max_str_digits() to increase the limit"
  | .notNumber => "cannot convert float NaN to integer"
  | .infinite => "cannot convert float infinity to integer"

/-- The digits of a numeral after its sign. A run of more than 4300 digits is refused before what
follows it is looked at. -/
def numeralDigits (t : Text) (cs : List Char) : Except IntegerError Nat :=
  let body := cs.takeWhile fun c => Text.Numeral.isDigit c || c == '_'
  let rest := cs.dropWhile fun c => Text.Numeral.isDigit c || c == '_'
  match Text.Numeral.withoutUnderscores body with
  | none => .error (.literal t)
  | some digits =>
    if Text.Numeral.integerLimit < digits.length then .error (.digitCount digits.length)
    else if digits.isEmpty || !rest.all Text.Numeral.isAsciiBlank then .error (.literal t)
    else .ok (Text.Numeral.ofDigits digits)

def numeral (t : Text) : Except IntegerError Int :=
  let (negative, body) :=
    Text.Numeral.splitSign ((t.map Text.Numeral.asciiChar).dropWhile Text.Numeral.isAsciiBlank)
  (numeralDigits t body).map fun n => if negative then -(n : Int) else n

def integer : Value → Except IntegerError Int
  | .int n => .ok n
  | .bool b => .ok (if b then 1 else 0)
  | .float .nan => .error .notNumber
  | .float (.infinite _) => .error .infinite
  | .float (.finite x) => .ok x.truncate
  | .text t => numeral t
  | v => .error (.kind v.kind)

end MarketSnapshot.Value
