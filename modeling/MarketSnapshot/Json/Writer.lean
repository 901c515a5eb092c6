import MarketSnapshot.Binary64.Layout
import MarketSnapshot.Text.Quoted
import MarketSnapshot.Value.Basic

namespace MarketSnapshot.Json

inductive WriteError where
  | loneSurrogate
  | integerRange
  | nesting
deriving DecidableEq

def WriteError.message : WriteError → String
  | .loneSurrogate => "str is not valid UTF-8: surrogates not allowed"
  | .integerRange => "Integer exceeds 64-bit range"
  | .nesting => "Recursion limit reached"

def escape (c : Char) : List Char :=
  if c = '"' then ['\\', '"']
  else if c = '\\' then ['\\', '\\']
  else if c = '\n' then ['\\', 'n']
  else if c = '\r' then ['\\', 'r']
  else if c = '\t' then ['\\', 't']
  else if c.toNat = 8 then ['\\', 'b']
  else if c.toNat = 12 then ['\\', 'f']
  else if c.toNat < 32 then '\\' :: 'u' :: Text.hex 4 c.toNat
  else [c]

def writeChars (cs : List Char) : List Char := '"' :: cs.flatMap escape ++ ['"']

def writeText (t : Text) : Except WriteError (List Char) :=
  match t.chars? with
  | some cs => .ok (writeChars cs)
  | none => .error .loneSurrogate

def leastInt : Int := -0x8000000000000000

def greatestInt : Int := 0xffffffffffffffff

def writeInt (n : Int) : Except WriteError (List Char) :=
  if leastInt ≤ n ∧ n ≤ greatestInt then .ok (toString n).toList else .error .integerRange

def writeNumber : Binary64 → List Char
  | .finite x => Binary64.Layout.compact.write x
  | _ => "null".toList

def writeFlag (b : Bool) : List Char := if b then "true".toList else "false".toList

mutual

/-- The text of a value in which containers may nest so many levels deep. Empty ones count. -/
def writeWithin (levels : Nat) : Value → Except WriteError (List Char)
  | .null => .ok "null".toList
  | .bool b => .ok (writeFlag b)
  | .int n => writeInt n
  | .float x => .ok (writeNumber x)
  | .text t => writeText t
  | .list items =>
    match levels with
    | 0 => .error .nesting
    | levels + 1 => do return '[' :: (← writeItems levels items) ++ [']']
  | .dict entries =>
    match levels with
    | 0 => .error .nesting
    | levels + 1 => do return '\x7b' :: (← writeEntries levels entries) ++ ['\x7d']

def writeItems (levels : Nat) : List Value → Except WriteError (List Char)
  | [] => .ok []
  | [v] => writeWithin levels v
  | v :: rest => do return (← writeWithin levels v) ++ ',' :: (← writeItems levels rest)

def writeEntries (levels : Nat) : List (String × Value) → Except WriteError (List Char)
  | [] => .ok []
  | [(k, v)] => do return writeChars k.toList ++ ':' :: (← writeWithin levels v)
  | (k, v) :: rest => do
    return writeChars k.toList ++ ':' :: (← writeWithin levels v)
      ++ ',' :: (← writeEntries levels rest)

end

def nestingLimit : Nat := 254

def write (v : Value) : Except WriteError (List Char) := writeWithin nestingLimit v

end MarketSnapshot.Json
