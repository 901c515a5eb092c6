import MarketSnapshot.Field.Cause
import MarketSnapshot.Text.Numeral
import MarketSnapshot.Value.Basic

namespace MarketSnapshot.Field

abbrev Reader (α : Type) := Value → Except Cause α

def integerOfBinary64 : Binary64 → Except Cause Int
  | .finite x =>
    if !x.isIntegral then .error .fractional
    else if integerMinimum < x.truncate ∧ x.truncate ≤ integerMaximum then .ok x.truncate
    else .error .integerSize
  | _ => .error .notFinite

def readInteger : Reader Int
  | .int n => .ok n
  | .bool b => .ok (if b then 1 else 0)
  | .float x => integerOfBinary64 x
  | .text t =>
    match t.chars? with
    | none => .error .undecodable
    | some cs =>
      match Text.Numeral.readInteger cs with
      | .number n => .ok n
      | .tooLong => .error .integerSize
      | .malformed => .error .integerSyntax
  | _ => .error .notInteger

def readInt64 : Reader Int := fun v =>
  match readInteger v with
  | .error cause => .error cause
  | .ok n =>
    if n < integerMinimum then .error .belowMinimum
    else if integerMaximum < n then .error .aboveMaximum
    else .ok n

def numberOfInt (n : Int) : Except Cause Binary64 :=
  match Binary64.ofInt n with
  | .infinite _ => .error .notNumber
  | x => .ok x

def readNumber : Reader Binary64
  | .float x => .ok x
  | .int n => numberOfInt n
  | .bool b => .ok (if b then Binary64.one else Binary64.zero)
  | .text t =>
    match t.chars? with
    | none => .error .undecodable
    | some cs =>
      match Text.Numeral.readLenientBinary64 cs with
      | some x => .ok x
      | none => .error .numberSyntax
  | _ => .error .notNumber

def falseWords : List String := ["0", "f", "n", "no", "off", "false"]

def trueWords : List String := ["1", "t", "y", "on", "yes", "true"]

def flagOfWord (cs : List Char) : Option Bool :=
  let word := String.ofList (cs.map Char.toLower)
  if word ∈ falseWords then some false
  else if word ∈ trueWords then some true
  else none

def flagOfInt (n : Int) : Except Cause Bool :=
  if n = 0 then .ok false else if n = 1 then .ok true else .error .flagSyntax

/-- A number stands for a flag only if it is an integer of the 64-bit range. -/
def readFlag : Reader Bool
  | .bool b => .ok b
  | .int n =>
    if integerMinimum ≤ n ∧ n ≤ integerMaximum then flagOfInt n else .error .notFlag
  | .float x =>
    match integerOfBinary64 x with
    | .ok n => flagOfInt n
    | .error _ => .error .notFlag
  | .text t =>
    match t.chars? with
    | none => .error .undecodable
    | some cs =>
      match flagOfWord cs with
      | some b => .ok b
      | none => .error .flagSyntax
  | _ => .error .notFlag

def readText : Reader Text
  | .text t => .ok t
  | _ => .error .notText

def readEncodableText : Reader Text
  | .text t => if t.Encodable then .ok t else .error (.notEncodable t)
  | _ => .error .notText

end MarketSnapshot.Field
