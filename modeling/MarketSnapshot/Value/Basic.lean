import MarketSnapshot.Binary64.Rounding
import MarketSnapshot.Table
import MarketSnapshot.Text.Basic

namespace MarketSnapshot

inductive Value where
  | null
  | bool (b : Bool)
  | int (n : Int)
  | float (x : Binary64)
  | text (t : Text)
  | list (items : List Value)
  | dict (entries : List (String × Value))
deriving Inhabited

abbrev Entries := Table String Value

namespace Value

def string (s : String) : Value := .text (Text.ofString s)

def kind : Value → String
  | .null => "NoneType"
  | .bool _ => "bool"
  | .int _ => "int"
  | .float _ => "float"
  | .text _ => "str"
  | .list _ => "list"
  | .dict _ => "dict"

def isTrue : Value → Bool
  | .null => false
  | .bool b => b
  | .int n => n ≠ 0
  | .float x => x.isTrue
  | .text t => !t.isEmpty
  | .list items => !items.isEmpty
  | .dict entries => !entries.isEmpty

def orElse (v fallback : Value) : Value := if v.isTrue then v else fallback

def int? : Value → Option Int
  | .bool b => some (if b then 1 else 0)
  | .int n => some n
  | _ => none

end Value

end MarketSnapshot
