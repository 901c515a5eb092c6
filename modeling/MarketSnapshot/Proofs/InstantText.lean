import MarketSnapshot.Proofs.CalendarDays
import MarketSnapshot.Proofs.NumberText
import MarketSnapshot.Time.Stamp

namespace MarketSnapshot

open Binary64 (paddedNat padded)
open Text.Numeral (isDigit ofDigits)

def fixedDigits : Nat → Nat → List Char
  | 0, _ => []
  | width + 1, n => fixedDigits width (n / 10) ++ [Nat.digitChar (n % 10)]

@[simp] theorem length_fixedDigits (width n : Nat) : (fixedDigits width n).length = width := by
  induction width generalizing n with
  | zero => rfl
  | succ width ih => simp [fixedDigits, ih]

theorem fixedDigits_zero (width : Nat) : fixedDigits width 0 = List.replicate width '0' := by
  induction width with
  | zero => rfl
  | succ width ih => rw [fixedDigits, Nat.zero_div, ih, List.replicate_succ']; rfl

theorem ofDigits_snoc (cs : List Char) {d : Nat} (digit : d < 10) :
    ofDigits (cs ++ [Nat.digitChar d]) = 10 * ofDigits cs + d := by
  have value : (Nat.digitChar d).toNat - '0'.toNat = d := by
    interval_cases d <;> rfl
  rw [ofDigits, List.foldl_append, List.foldl_cons, List.foldl_nil, value]
  rfl

theorem ofDigits_fixedDigits {width n : Nat} (fits : n < 10 ^ width) :
    ofDigits (fixedDigits width n) = n := by
  induction width generalizing n with
  | zero =>
    have zero : n = 0 := by simpa using fits
    rw [zero]
    rfl
  | succ width ih =>
    have shorter : n / 10 < 10 ^ width := by
      rw [Nat.pow_succ] at fits
      omega
    rw [fixedDigits, ofDigits_snoc _ (Nat.mod_lt n (by decide)), ih shorter]
    omega

theorem paddedNat_eq_fixedDigits {width n : Nat} (some_digit : 0 < width) (fits : n < 10 ^ width) :
    paddedNat width n = fixedDigits width n := by
  induction width generalizing n with
  | zero => cases some_digit
  | succ width ih =>
    unfold paddedNat padded
    rw [fixedDigits, Nat.toDigits_eq_if (by decide)]
    by_cases small : n < 10
    · have quotient : n / 10 = 0 := by omega
      have remainder : n % 10 = n := by omega
      rw [if_pos small, quotient, remainder, fixedDigits_zero]
      rfl
    · have shorter : n / 10 < 10 ^ width := by
        rw [Nat.pow_succ] at fits
        omega
      have more : 0 < width := by
        rcases Nat.eq_zero_or_pos width with rfl | more
        · simp only [Nat.zero_add, Nat.pow_one] at fits
          omega
        · exact more
      rw [if_neg small, ← ih more shorter]
      simp [paddedNat, padded]

theorem fixedDigits_append_inj {width a b : Nat} (left : a < 10 ^ width) (right : b < 10 ^ width)
    {s t : List Char} (same : fixedDigits width a ++ s = fixedDigits width b ++ t) :
    a = b ∧ s = t := by
  obtain ⟨digits, rest⟩ := List.append_inj same (by simp)
  refine ⟨?_, rest⟩
  rw [← ofDigits_fixedDigits left, digits, ofDigits_fixedDigits right]

theorem toDigits_append_inj {a b : Nat} {c : Char} (stop : isDigit c = false) {s t : List Char}
    (same : Nat.toDigits 10 a ++ c :: s = Nat.toDigits 10 b ++ c :: t) : a = b ∧ s = t := by
  obtain ⟨left, left_rest⟩ := takeWhile_digits (allDigits_toDigits a) (stops_cons c stop s)
  obtain ⟨right, right_rest⟩ := takeWhile_digits (allDigits_toDigits b) (stops_cons c stop t)
  rw [same, right] at left
  rw [same, right_rest] at left_rest
  refine ⟨?_, (List.cons.inj left_rest).2.symm⟩
  rw [← ofDigits_toDigits a, ← left, ofDigits_toDigits]

structure Moment where
  date : Date
  hour : Nat
  minute : Nat
  second : Nat
  milli : Nat
deriving DecidableEq

namespace Moment

structure Valid (m : Moment) : Prop where
  date : m.date.Valid
  year : m.date.year ≤ 9999
  hour : m.hour < 24
  minute : m.minute < 60
  second : m.second < 60
  milli : m.milli < 1000

def clock (m : Moment) : Nat :=
  m.hour * 3600000 + m.minute * 60000 + m.second * 1000 + m.milli

def millis (m : Moment) : Int :=
  ((m.date.ordinal : Int) - Date.ordinal ⟨1970, 1, 1⟩) * 86400000 + m.clock

/-- `YYYY-MM-DDThh:mm:ss.mmmZ`, but with no more digits of the year than it has. -/
def text (m : Moment) : List Char :=
  Nat.toDigits 10 m.date.year ++ '-' :: (fixedDigits 2 m.date.month ++
    '-' :: (fixedDigits 2 m.date.day ++ 'T' :: (fixedDigits 2 m.hour ++
      ':' :: (fixedDigits 2 m.minute ++ ':' :: (fixedDigits 2 m.second ++
        '.' :: (fixedDigits 3 m.milli ++ ['Z']))))))

def ofClock (date : Date) (clock : Nat) : Moment :=
  ⟨date, clock / 3600000, clock / 60000 % 60, clock / 1000 % 60, clock % 1000⟩

theorem clock_ofClock (date : Date) (clock : Nat) : (Moment.ofClock date clock).clock = clock := by
  simp only [Moment.ofClock, Moment.clock]
  omega

theorem valid_ofClock {date : Date} (valid : date.Valid) (year : date.year ≤ 9999) {clock : Nat}
    (day : clock < 86400000) : (Moment.ofClock date clock).Valid where
  date := valid
  year := year
  hour := by simp only [Moment.ofClock]; omega
  minute := Nat.mod_lt _ (by decide)
  second := Nat.mod_lt _ (by decide)
  milli := Nat.mod_lt _ (by decide)

theorem Valid.clock_lt {m : Moment} (valid : m.Valid) : m.clock < 86400000 := by
  obtain ⟨_, _, hour, minute, second, milli⟩ := valid
  unfold clock
  omega

theorem Valid.ofClock_clock {m : Moment} (valid : m.Valid) : Moment.ofClock m.date m.clock = m := by
  obtain ⟨_, _, hour, minute, second, milli⟩ := valid
  obtain ⟨date, h, min, s, ms⟩ := m
  simp only [Moment.ofClock, clock, Moment.mk.injEq, true_and] at *
  omega

theorem text_inj {m other : Moment} (valid : m.Valid) (other_valid : other.Valid)
    (same : m.text = other.text) : m = other := by
  obtain ⟨⟨_, _, month, _, day⟩, _, hour, minute, second, milli⟩ := valid
  obtain ⟨⟨_, _, other_month, _, other_day⟩, _, other_hour, other_minute, other_second,
    other_milli⟩ := other_valid
  have month_bound := Date.monthLength_le m.date.year m.date.month
  have other_month_bound := Date.monthLength_le other.date.year other.date.month
  unfold text at same
  obtain ⟨year_same, same⟩ := toDigits_append_inj (by decide) same
  obtain ⟨month_same, same⟩ := fixedDigits_append_inj (by omega) (by omega) same
  obtain ⟨day_same, same⟩ :=
    fixedDigits_append_inj (by omega) (by omega) (List.cons.inj same).2
  obtain ⟨hour_same, same⟩ :=
    fixedDigits_append_inj (by omega) (by omega) (List.cons.inj same).2
  obtain ⟨minute_same, same⟩ :=
    fixedDigits_append_inj (by omega) (by omega) (List.cons.inj same).2
  obtain ⟨second_same, same⟩ :=
    fixedDigits_append_inj (by omega) (by omega) (List.cons.inj same).2
  obtain ⟨milli_same, _⟩ :=
    fixedDigits_append_inj (by omega) (by omega) (List.cons.inj same).2
  obtain ⟨⟨year, month, day⟩, hour, minute, second, milli⟩ := m
  obtain ⟨⟨otherYear, otherMonth, otherDay⟩, otherHour, otherMinute, otherSecond, otherMilli⟩ :=
    other
  simp_all

end Moment

namespace Stamp

theorem text_ofClock {date : Date} (valid : date.Valid) {clock : Nat} (day : clock < 86400000) :
    String.ofList (date.text.toList ++ 'T' :: clockText clock ++ ['Z']) =
      String.ofList (Moment.ofClock date clock).text := by
  obtain ⟨_, _, month, _, day_last⟩ := valid
  have month_bound := Date.monthLength_le date.year date.month
  have two : ∀ n, n < 100 → paddedNat 2 n = fixedDigits 2 n :=
    fun n fits => paddedNat_eq_fixedDigits (by decide) fits
  have three : ∀ n, n < 1000 → paddedNat 3 n = fixedDigits 3 n :=
    fun n fits => paddedNat_eq_fixedDigits (by decide) fits
  simp only [Date.text, clockText, Moment.text, Moment.ofClock, String.toList_ofList]
  rw [two date.month (by omega), two date.day (by omega), two (clock / 3600000) (by omega),
    two (clock / 60000 % 60) (by omega), two (clock / 1000 % 60) (by omega),
    three (clock % 1000) (by omega)]
  simp only [List.append_assoc, List.cons_append]

theorem dateOf_eq_ok_iff (days : Int) (d : Date) :
    dateOf days = .ok d ↔
      d.Valid ∧ d.year ≤ 9999 ∧ (d.ordinal : Int) = days + Date.epoch := by
  have limits : Date.epoch = 719162 ∧ Date.ordinalLimit = 3652059 := ⟨rfl, rfl⟩
  obtain ⟨epoch, limit⟩ := limits
  constructor
  · intro found
    unfold dateOf at found
    dsimp only at found
    split at found
    · cases found
    · split at found
      · cases found
      · split at found
        · rename_i within
          cases found
          obtain ⟨valid, number⟩ := Date.ofOrdinal_spec (days + Date.epoch).toNat
          refine ⟨valid, ?_, by omega⟩
          rw [← Date.ordinal_lt_limit_iff valid]
          omega
        · cases found
  · rintro ⟨valid, early, number⟩
    rw [← Date.ordinal_lt_limit_iff valid] at early
    have day : (days + Date.epoch).toNat = d.ordinal := by omega
    unfold dateOf
    dsimp only
    rw [if_neg (by omega), if_neg (by omega), if_pos (by omega), day,
      Date.ofOrdinal_ordinal valid]

theorem exists_dateOf_iff (days : Int) :
    (∃ d, dateOf days = .ok d) ↔ -719162 ≤ days ∧ days ≤ 2932896 := by
  simp only [dateOf_eq_ok_iff]
  have limits : Date.epoch = 719162 ∧ Date.ordinalLimit = 3652059 := ⟨rfl, rfl⟩
  obtain ⟨epoch, limit⟩ := limits
  constructor
  · rintro ⟨d, valid, early, number⟩
    rw [← Date.ordinal_lt_limit_iff valid] at early
    omega
  · rintro ⟨first, last⟩
    obtain ⟨valid, number⟩ := Date.ofOrdinal_spec (days + Date.epoch).toNat
    refine ⟨_, valid, ?_, by omega⟩
    rw [← Date.ordinal_lt_limit_iff valid]
    omega

theorem format_eq_ok_iff (millis : Int) (text : String) :
    format millis = .ok text ↔
      ∃ m : Moment, m.Valid ∧ m.millis = millis ∧ String.ofList m.text = text := by
  have start : Date.ordinal ⟨1970, 1, 1⟩ = Date.epoch := rfl
  constructor
  · intro written
    unfold format dayMillis at written
    cases found : dateOf (millis.fdiv 86400000) with
    | error e => rw [found] at written; cases written
    | ok date =>
      rw [found] at written
      have written := Except.ok.inj written
      subst written
      obtain ⟨valid, year, number⟩ := (dateOf_eq_ok_iff _ _).mp found
      rw [Int.fdiv_eq_ediv_of_nonneg _ (by decide)] at number
      rw [Int.fmod_eq_emod_of_nonneg _ (by decide)]
      have day : (millis % 86400000).toNat < 86400000 := by omega
      refine ⟨Moment.ofClock date (millis % 86400000).toNat, Moment.valid_ofClock valid year day,
        ?_, (text_ofClock valid day).symm⟩
      rw [Moment.millis, Moment.clock_ofClock, start]
      simp only [Moment.ofClock]
      omega
  · rintro ⟨m, valid, rfl, rfl⟩
    have clock := valid.clock_lt
    have days : m.millis.fdiv dayMillis = (m.date.ordinal : Int) - Date.epoch := by
      rw [dayMillis, Int.fdiv_eq_ediv_of_nonneg _ (by decide), Moment.millis, start]
      omega
    have rest : (m.millis.fmod dayMillis).toNat = m.clock := by
      rw [dayMillis, Int.fmod_eq_emod_of_nonneg _ (by decide), Moment.millis]
      omega
    have found : dateOf (m.millis.fdiv dayMillis) = .ok m.date := by
      rw [dateOf_eq_ok_iff, days]
      exact ⟨valid.date, valid.year, by omega⟩
    unfold format
    rw [found, rest, Except.map, text_ofClock valid.date clock, valid.ofClock_clock]

theorem exists_format_iff (millis : Int) :
    (∃ text, format millis = .ok text) ↔
      -62135596800000 ≤ millis ∧ millis ≤ 253402300799999 := by
  have day : (∃ text, format millis = .ok text) ↔
      ∃ d, dateOf (millis.fdiv dayMillis) = .ok d := by
    unfold format
    cases dateOf (millis.fdiv dayMillis) <;> simp [Except.map]
  rw [day, exists_dateOf_iff, dayMillis, Int.fdiv_eq_ediv_of_nonneg _ (by decide)]
  omega

theorem formatValue_int (millis : Int) :
    formatValue (.int millis) = (format millis).mapError .range := rfl

theorem formatValue_eq_ok_iff (millis : Int) (text : String) :
    formatValue (.int millis) = .ok text ↔ format millis = .ok text := by
  rw [formatValue_int]
  cases format millis <;> simp [Except.mapError]

/-- Exactly the instants of the years 1 to 9999 have a text, and the others fail for their range and
nothing else. The text of an instant writes the valid date and time of day that lies so many
milliseconds after the start of 1970, and no other instant has it. -/
theorem text_writes_instant (millis : Int) :
    ((∃ text, formatValue (.int millis) = .ok text) ↔
      -62135596800000 ≤ millis ∧ millis ≤ 253402300799999) ∧
    (∀ e, formatValue (.int millis) = .error e → ∃ range, e = .range range) ∧
    (∀ text, formatValue (.int millis) = .ok text ↔
      ∃ m : Moment, m.Valid ∧ m.millis = millis ∧ String.ofList m.text = text) ∧
    ∀ other text, formatValue (.int millis) = .ok text → formatValue (.int other) = .ok text →
      millis = other := by
  refine ⟨?_, ?_, ?_, ?_⟩
  · simp only [formatValue_eq_ok_iff]
    exact exists_format_iff millis
  · intro e failed
    rw [formatValue_int] at failed
    cases written : format millis with
    | error range =>
      rw [written] at failed
      cases failed
      exact ⟨range, rfl⟩
    | ok text => rw [written] at failed; cases failed
  · intro text
    rw [formatValue_eq_ok_iff]
    exact format_eq_ok_iff millis text
  · intro other text written other_written
    rw [formatValue_eq_ok_iff, format_eq_ok_iff] at written other_written
    obtain ⟨m, valid, rfl, rfl⟩ := written
    obtain ⟨m', valid', rfl, same⟩ := other_written
    rw [Moment.text_inj valid' valid (String.ofList_injective same)]

end Stamp

end MarketSnapshot
