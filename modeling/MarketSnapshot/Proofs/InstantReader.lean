import MarketSnapshot.Proofs.InstantText

namespace MarketSnapshot.Stamp

open Text.Numeral (isDigit ofDigits)

def readPart (width : Nat) (mark : Char) (cs : List Char) : Option (Nat × List Char) :=
  let digits := cs.take width
  match cs.drop width with
  | [] => none
  | c :: rest =>
    if digits.all isDigit && c == mark then some (ofDigits digits, rest) else none

instance (m : Moment) : Decidable m.Valid :=
  decidable_of_iff
    (m.date.Valid ∧ m.date.year ≤ 9999 ∧ m.hour < 24 ∧ m.minute < 60 ∧ m.second < 60 ∧
      m.milli < 1000)
    ⟨fun ⟨date, year, hour, minute, second, milli⟩ => ⟨date, year, hour, minute, second, milli⟩,
    fun valid => ⟨valid.date, valid.year, valid.hour, valid.minute, valid.second, valid.milli⟩⟩

def readMoment (cs : List Char) : Option Moment := do
  let (year, cs) ← readPart (cs.takeWhile isDigit).length '-' cs
  let (month, cs) ← readPart 2 '-' cs
  let (day, cs) ← readPart 2 'T' cs
  let (hour, cs) ← readPart 2 ':' cs
  let (minute, cs) ← readPart 2 ':' cs
  let (second, cs) ← readPart 2 '.' cs
  let (milli, cs) ← readPart 3 'Z' cs
  let m : Moment := ⟨⟨year, month, day⟩, hour, minute, second, milli⟩
  if cs = [] ∧ m.Valid then some m else none

def instant? (text : String) : Option Int := (readMoment text.toList).map Moment.millis

theorem readPart_digits {digits : List Char} (all : AllDigits digits) (mark : Char)
    (rest : List Char) :
    readPart digits.length mark (digits ++ mark :: rest) = some (ofDigits digits, rest) := by
  have every : digits.all isDigit = true := List.all_eq_true.mpr all
  simp [readPart, every]

theorem allDigits_fixedDigits (width n : Nat) : AllDigits (fixedDigits width n) := by
  induction width generalizing n with
  | zero =>
    intro c member
    cases member
  | succ width ih =>
    have last : ∀ d < 10, isDigit (Nat.digitChar d) = true := by decide
    refine (ih (n / 10)).append fun c member => ?_
    rw [List.mem_singleton.mp member]
    exact last _ (Nat.mod_lt n (by decide))

theorem readPart_fixedDigits {width n : Nat} (fits : n < 10 ^ width) (mark : Char)
    (rest : List Char) :
    readPart width mark (fixedDigits width n ++ mark :: rest) = some (n, rest) := by
  have read := readPart_digits (allDigits_fixedDigits width n) mark rest
  rwa [length_fixedDigits, ofDigits_fixedDigits fits] at read

theorem readMoment_text {m : Moment} (valid : m.Valid) : readMoment m.text = some m := by
  have ⟨⟨_, _, month, _, day⟩, _, hour, minute, second, milli⟩ := valid
  have month_bound := Date.monthLength_le m.date.year m.date.month
  unfold readMoment Moment.text
  rw [(takeWhile_digits (allDigits_toDigits _) (stops_cons '-' (by decide) _)).1,
    readPart_digits (allDigits_toDigits _), ofDigits_toDigits]
  simp (disch := omega) only [readPart_fixedDigits, Option.bind_eq_bind, Option.bind_some]
  exact if_pos ⟨trivial, valid⟩

theorem instant?_format {millis : Int} {text : String} (written : format millis = .ok text) :
    instant? text = some millis := by
  obtain ⟨m, valid, rfl, rfl⟩ := (format_eq_ok_iff millis text).mp written
  rw [instant?, String.toList_ofList, readMoment_text valid]
  rfl

end MarketSnapshot.Stamp
