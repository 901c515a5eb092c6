import MarketSnapshot.Binary64.Layout

namespace MarketSnapshot

structure Date where
  year : Nat
  month : Nat
  day : Nat
deriving DecidableEq

namespace Date

def isLeap (year : Nat) : Bool := year % 4 == 0 && (year % 100 != 0 || year % 400 == 0)

def monthLength (year month : Nat) : Nat :=
  match month with
  | 2 => if isLeap year then 29 else 28
  | 4 | 6 | 9 | 11 => 30
  | _ => 31

def Valid (d : Date) : Prop :=
  1 ≤ d.year ∧ 1 ≤ d.month ∧ d.month ≤ 12 ∧ 1 ≤ d.day ∧ d.day ≤ monthLength d.year d.month

instance (d : Date) : Decidable d.Valid :=
  inferInstanceAs (Decidable (_ ∧ _ ∧ _ ∧ _ ∧ _))

def daysBeforeYear (year : Nat) : Nat :=
  let past := year - 1
  past * 365 + past / 4 - past / 100 + past / 400

def daysBeforeMonth (year month : Nat) : Nat :=
  (List.range (month - 1)).foldl (fun days m => days + monthLength year (m + 1)) 0

def ordinal (d : Date) : Nat :=
  daysBeforeYear d.year + daysBeforeMonth d.year d.month + (d.day - 1)

def splitMonth (year : Nat) : Nat → Nat → Nat → Nat × Nat
  | 0, month, day => (month, day)
  | fuel + 1, month, day =>
    let length := monthLength year month
    if day < length then (month, day) else splitMonth year fuel (month + 1) (day - length)

/-- The year of a day and the day in that year. Cycles of 400 years have 146097 days; the last
century of a cycle and the last year of four have a day more than the others. -/
def splitYear (n : Nat) : Nat × Nat :=
  let cycles := n / 146097
  let n := n % 146097
  let centuries := min 3 (n / 36524)
  let n := n - centuries * 36524
  let quads := n / 1461
  let n := n % 1461
  let years := min 3 (n / 365)
  (cycles * 400 + centuries * 100 + quads * 4 + years + 1, n - years * 365)

def ofOrdinal (n : Nat) : Date :=
  let (year, dayOfYear) := splitYear n
  let (month, day) := splitMonth year 11 1 dayOfYear
  ⟨year, month, day + 1⟩

def epoch : Nat := 719162

def ordinalLimit : Nat := 3652059

def text (d : Date) : String :=
  String.ofList (Nat.toDigits 10 d.year ++ '-' :: Binary64.paddedNat 2 d.month
    ++ '-' :: Binary64.paddedNat 2 d.day)

end Date

end MarketSnapshot
