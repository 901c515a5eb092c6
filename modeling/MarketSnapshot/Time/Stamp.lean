import MarketSnapshot.Time.Calendar
import MarketSnapshot.Value.Integer

namespace MarketSnapshot.Stamp

/-- Why an instant has no text. A day count must first fit a machine word, then nine digits, and
at last the years 1 to 9999. -/
inductive RangeError where
  | dayCountWord
  | dayCount (days : Int)
  | calendar
deriving DecidableEq

def RangeError.message : RangeError → String
  | .dayCountWord => "Python int too large to convert to C int"
  | .dayCount days => s!"days={days}; must have magnitude <= 999999999"
  | .calendar => "date value out of range"

def dayMillis : Int := 86400000

def clockText (millis : Nat) : List Char :=
  let two := Binary64.paddedNat 2
  two (millis / 3600000) ++ ':' :: two (millis / 60000 % 60)
    ++ ':' :: two (millis / 1000 % 60) ++ '.' :: Binary64.paddedNat 3 (millis % 1000)

def dateOf (days : Int) : Except RangeError Date :=
  if days < -0x80000000 ∨ 0x80000000 ≤ days then .error .dayCountWord
  else if 999999999 < days.natAbs then .error (.dayCount days)
  else
    let day := days + Date.epoch
    if 0 ≤ day ∧ day < Date.ordinalLimit then .ok (Date.ofOrdinal day.toNat)
    else .error .calendar

def format (millis : Int) : Except RangeError String :=
  (dateOf (millis.fdiv dayMillis)).map fun date =>
    String.ofList (date.text.toList ++ 'T' :: clockText (millis.fmod dayMillis).toNat ++ ['Z'])

inductive Error where
  | value (e : Value.IntegerError)
  | range (e : RangeError)
deriving DecidableEq

def Error.message : Error → String
  | .value e => e.message
  | .range e => e.message

def formatValue (v : Value) : Except Error String :=
  match v.integer with
  | .error e => .error (.value e)
  | .ok millis => (format millis).mapError .range

end MarketSnapshot.Stamp
