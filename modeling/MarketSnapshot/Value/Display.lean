import MarketSnapshot.Binary64.Layout
import MarketSnapshot.Text.Numeral
import MarketSnapshot.Text.Quoted
import MarketSnapshot.Value.Basic

namespace MarketSnapshot.Value

mutual

def literal : Value → String
  | .null => "None"
  | .bool b => if b then "True" else "False"
  | .int n => toString n
  | .float x => x.display
  | .text t => t.quoted
  | .list items => "[" ++ literalItems items ++ "]"
  | .dict entries => "\x7b" ++ literalEntries entries ++ "\x7d"

def literalItems : List Value → String
  | [] => ""
  | [v] => literal v
  | v :: rest => literal v ++ ", " ++ literalItems rest

def literalEntries : List (String × Value) → String
  | [] => ""
  | [(k, v)] => (Text.ofString k).quoted ++ ": " ++ literal v
  | (k, v) :: rest => (Text.ofString k).quoted ++ ": " ++ literal v ++ ", " ++ literalEntries rest

end

def display : Value → Text
  | .text t => t
  | v => literal v

def withinDigits : Nat → Nat → Bool
  | 0, n => n = 0
  | count + 1, n => n < 10 || withinDigits count (n / 10)

mutual

/-- An integer with too many digits has no text, nor has a value that holds one. -/
def hasText : Value → Bool
  | .int n => withinDigits Text.Numeral.integerLimit n.natAbs
  | .list items => haveText items
  | .dict entries => entriesHaveText entries
  | _ => true

def haveText : List Value → Bool
  | [] => true
  | v :: rest => hasText v && haveText rest

def entriesHaveText : List (String × Value) → Bool
  | [] => true
  | (_, v) :: rest => hasText v && entriesHaveText rest

end

def text? (v : Value) : Option Text := if v.hasText then some v.display else none

def noText : String :=
  "Exceeds the limit (4300 digits) for integer string conversion; "
    ++ "use sys.set_int_max_str_digits() to increase the limit"

theorem withinDigits_iff (count n : Nat) : withinDigits count n = true ↔ n < Nat.pow 10 count := by
  induction count generalizing n with
  | zero => simp [withinDigits]
  | succ count ih =>
    have positive : 0 < Nat.pow 10 count := Nat.pow_pos (by decide)
    have next : Nat.pow 10 (count + 1) = Nat.pow 10 count * 10 := rfl
    rw [withinDigits, Bool.or_eq_true, decide_eq_true_eq, ih, next,
      Nat.div_lt_iff_lt_mul (by decide)]
    omega

theorem hasText_int_iff (n : Int) :
    (Value.int n).hasText = true ↔ n.natAbs < Nat.pow 10 Text.Numeral.integerLimit := by
  rw [hasText, withinDigits_iff]

end MarketSnapshot.Value
