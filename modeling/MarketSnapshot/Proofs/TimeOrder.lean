import Mathlib.Data.String.Basic
import MarketSnapshot.Proofs.InstantText

namespace MarketSnapshot

open Binary64 (digitCount paddedNat padded)

theorem digitChar_lt_iff : ∀ d < 10, ∀ e < 10, Nat.digitChar d < Nat.digitChar e ↔ d < e := by
  decide

theorem digitChar_eq_iff : ∀ d < 10, ∀ e < 10, Nat.digitChar d = Nat.digitChar e ↔ d = e := by
  decide

theorem dash_lt_digitChar : ∀ d < 10, '-' < Nat.digitChar d := by decide

theorem fixedDigits_append_lt_iff {width a b : Nat} (left : a < 10 ^ width)
    (right : b < 10 ^ width) (s t : List Char) :
    fixedDigits width a ++ s < fixedDigits width b ++ t ↔ a < b ∨ a = b ∧ s < t := by
  induction width generalizing a b s t with
  | zero =>
    have zeros : a = 0 ∧ b = 0 := by simpa using And.intro left right
    obtain ⟨rfl, rfl⟩ := zeros
    simp [fixedDigits]
  | succ width ih =>
    rw [Nat.pow_succ] at left right
    have less := digitChar_lt_iff (a % 10) (by omega) (b % 10) (by omega)
    have same := digitChar_eq_iff (a % 10) (by omega) (b % 10) (by omega)
    -- The last digits go to the tails, so that the induction decides by the digits before them.
    have front := ih (a := a / 10) (b := b / 10) (by omega) (by omega)
      (Nat.digitChar (a % 10) :: s) (Nat.digitChar (b % 10) :: t)
    rw [List.cons_lt_cons_iff, less, same] at front
    simp only [fixedDigits, List.append_assoc, List.singleton_append, front]
    by_cases rest : s < t <;> simp only [rest, and_true, and_false, or_false] <;> omega

theorem fixedDigits_add (width more n : Nat) :
    fixedDigits (width + more) n = fixedDigits width (n / 10 ^ more) ++ fixedDigits more n := by
  induction more generalizing n with
  | zero => simp [fixedDigits]
  | succ more ih =>
    rw [← Nat.add_assoc, fixedDigits, ih, fixedDigits, List.append_assoc,
      Nat.div_div_eq_div_mul, ← Nat.pow_succ']

theorem lt_pow_digitCount (n : Nat) : n < 10 ^ digitCount n :=
  (Nat.length_toDigits_le_iff (by decide) Nat.length_toDigits_pos).mp (Nat.le_refl _)

theorem digitCount_mono {a b : Nat} (le : a ≤ b) : digitCount a ≤ digitCount b :=
  (Nat.length_toDigits_le_iff (by decide) Nat.length_toDigits_pos).mpr
    (le.trans_lt (lt_pow_digitCount b))

theorem toDigits_eq_fixedDigits (n : Nat) : Nat.toDigits 10 n = fixedDigits (digitCount n) n := by
  have some_digit : 0 < digitCount n := Nat.length_toDigits_pos
  rw [← paddedNat_eq_fixedDigits some_digit (lt_pow_digitCount n)]
  simp [paddedNat, padded, digitCount]

theorem dash_lt_fixedDigits (width n : Nat) (s t : List Char) :
    '-' :: s < fixedDigits (width + 1) n ++ t := by
  induction width generalizing n t with
  | zero =>
    rw [fixedDigits, fixedDigits, List.nil_append, List.singleton_append, List.cons_lt_cons_iff]
    exact .inl (dash_lt_digitChar _ (Nat.mod_lt _ (by decide)))
  | succ width ih =>
    rw [fixedDigits, List.append_assoc]
    exact ih _ _

/-- A number before a dash, beside one that has no fewer digits: the leading digits decide, and if
they agree the shorter number comes first. -/
theorem toDigits_dash_lt_iff {a b : Nat} (shorter : digitCount a ≤ digitCount b)
    (s t : List Char) :
    Nat.toDigits 10 a ++ '-' :: s < Nat.toDigits 10 b ++ '-' :: t ↔
      a < b / 10 ^ (digitCount b - digitCount a) ∨
        a = b / 10 ^ (digitCount b - digitCount a) ∧ (digitCount a < digitCount b ∨ s < t) := by
  obtain ⟨more, count⟩ := Nat.exists_eq_add_of_le shorter
  have left := lt_pow_digitCount a
  have right := lt_pow_digitCount b
  rw [count, Nat.pow_add, Nat.mul_comm] at right
  have leading := fixedDigits_append_lt_iff left (Nat.div_lt_of_lt_mul right) ('-' :: s)
    (fixedDigits more b ++ '-' :: t)
  rw [toDigits_eq_fixedDigits a, toDigits_eq_fixedDigits b, count, fixedDigits_add,
    List.append_assoc, leading, Nat.add_sub_cancel_left]
  -- Where the shorter number has ended, its dash stands beside a digit, and dashes are smaller.
  cases more with
  | zero => simp [fixedDigits, List.cons_lt_cons_self]
  | succ more => simp [dash_lt_fixedDigits]

def Date.Before (d other : Date) : Prop :=
  d.year < other.year ∨ d.year = other.year ∧
    (d.month < other.month ∨ d.month = other.month ∧ d.day < other.day)

theorem Date.ordinal_lt_iff {d other : Date} (valid : d.Valid) (other_valid : other.Valid) :
    d.ordinal < other.ordinal ↔ d.Before other := by
  have inside := valid.day_of_year
  have other_inside := other_valid.day_of_year
  obtain ⟨first, month_first, _, day_first, day_last⟩ := valid
  obtain ⟨other_first, other_month_first, _, other_day_first, other_day_last⟩ := other_valid
  have year_end := daysBeforeYear_succ first
  have other_year_end := daysBeforeYear_succ other_first
  have month_end := daysBeforeMonth_succ d.year month_first
  have other_month_end := daysBeforeMonth_succ other.year other_month_first
  unfold Before ordinal
  rcases Nat.lt_trichotomy d.year other.year with earlier | same | later
  · have before : daysBeforeYear (d.year + 1) ≤ daysBeforeYear other.year :=
      daysBeforeYear_mono earlier
    omega
  · rw [← same] at other_month_end other_day_last ⊢
    rcases Nat.lt_trichotomy d.month other.month with earlier | month | later
    · have before : daysBeforeMonth d.year (d.month + 1) ≤ daysBeforeMonth d.year other.month :=
        daysBeforeMonth_mono d.year earlier
      omega
    · rw [← month]
      omega
    · have before : daysBeforeMonth d.year (other.month + 1) ≤ daysBeforeMonth d.year d.month :=
        daysBeforeMonth_mono d.year later
      omega
  · have before : daysBeforeYear (other.year + 1) ≤ daysBeforeYear d.year :=
      daysBeforeYear_mono later
    omega

namespace Moment

def afterYear (m : Moment) : List Char :=
  fixedDigits 2 m.date.month ++ '-' :: (fixedDigits 2 m.date.day ++ 'T' :: (fixedDigits 2 m.hour ++
    ':' :: (fixedDigits 2 m.minute ++ ':' :: (fixedDigits 2 m.second ++
      '.' :: (fixedDigits 3 m.milli ++ ['Z'])))))

theorem text_eq (m : Moment) : m.text = Nat.toDigits 10 m.date.year ++ '-' :: m.afterYear := rfl

theorem length_text (m : Moment) : m.text.length = digitCount m.date.year + 20 := by
  simp [text_eq, afterYear, digitCount]

variable {m other : Moment} (valid : m.Valid) (other_valid : other.Valid)

include valid other_valid

theorem afterYear_lt_iff :
    m.afterYear < other.afterYear ↔
      m.date.month < other.date.month ∨ m.date.month = other.date.month ∧
        (m.date.day < other.date.day ∨ m.date.day = other.date.day ∧ m.clock < other.clock) := by
  obtain ⟨⟨_, _, month, _, day⟩, _, hour, minute, second, milli⟩ := valid
  obtain ⟨⟨_, _, other_month, _, other_day⟩, _, other_hour, other_minute, other_second,
    other_milli⟩ := other_valid
  have month_bound := Date.monthLength_le m.date.year m.date.month
  have other_month_bound := Date.monthLength_le other.date.year other.date.month
  have two : ∀ {n : Nat}, n < 100 → n < 10 ^ 2 := fun fits => fits
  have three : ∀ {n : Nat}, n < 1000 → n < 10 ^ 3 := fun fits => fits
  unfold afterYear clock
  rw [fixedDigits_append_lt_iff (two (by omega)) (two (by omega)), List.cons_lt_cons_self,
    fixedDigits_append_lt_iff (two (by omega)) (two (by omega)), List.cons_lt_cons_self,
    fixedDigits_append_lt_iff (two (by omega)) (two (by omega)), List.cons_lt_cons_self,
    fixedDigits_append_lt_iff (two (by omega)) (two (by omega)), List.cons_lt_cons_self,
    fixedDigits_append_lt_iff (two (by omega)) (two (by omega)), List.cons_lt_cons_self,
    fixedDigits_append_lt_iff (three milli) (three other_milli)]
  have last : ¬ ['Z'] < ['Z'] := by decide
  simp only [last, and_false, or_false]
  omega

theorem millis_lt_iff :
    m.millis < other.millis ↔
      m.date.Before other.date ∨ m.date = other.date ∧ m.clock < other.clock := by
  have clock := valid.clock_lt
  have other_clock := other_valid.clock_lt
  have order := Date.ordinal_lt_iff valid.date other_valid.date
  have same : m.date.ordinal = other.date.ordinal ↔ m.date = other.date :=
    ⟨Date.ordinal_inj valid.date other_valid.date, fun same => by rw [same]⟩
  rw [← order, ← same]
  unfold millis
  omega

theorem afterYear_lt_iff_millis (same : m.date.year = other.date.year) :
    m.afterYear < other.afterYear ↔ m.millis < other.millis := by
  have date : m.date = other.date ↔
      m.date.month = other.date.month ∧ m.date.day = other.date.day := by
    cases dates : m.date
    cases other_dates : other.date
    simp_all
  rw [afterYear_lt_iff valid other_valid, millis_lt_iff valid other_valid, date]
  unfold Date.Before
  omega

theorem year_le_of_millis_lt (earlier : m.millis < other.millis) :
    m.date.year ≤ other.date.year := by
  rcases (millis_lt_iff valid other_valid).mp earlier with (before | ⟨same, _⟩) | ⟨same, _⟩
  · exact before.le
  · exact same.le
  · rw [same]

theorem text_lt_iff_of_earlier (earlier : m.millis < other.millis) :
    m.text < other.text ↔
      m.date.year ≤ other.date.year / 10 ^ (other.text.length - m.text.length) := by
  have years := year_le_of_millis_lt valid other_valid earlier
  have shorter := digitCount_mono years
  have lengths : other.text.length - m.text.length =
      digitCount other.date.year - digitCount m.date.year := by
    rw [length_text, length_text]
    omega
  rw [lengths, text_eq, text_eq, toDigits_dash_lt_iff shorter]
  rcases Nat.lt_or_eq_of_le shorter with fewer | same
  · simp only [fewer, true_or, and_true]
    omega
  · rw [same, Nat.sub_self, Nat.pow_zero, Nat.div_one]
    constructor
    · omega
    · intro _
      rcases Nat.lt_or_eq_of_le years with before | year
      · exact .inl before
      · exact .inr ⟨year, .inr ((afterYear_lt_iff_millis valid other_valid year).mpr earlier)⟩

theorem text_lt_iff_of_same_length (same : m.text.length = other.text.length) :
    m.text < other.text ↔ m.millis < other.millis := by
  rw [length_text, length_text, Nat.add_right_cancel_iff] at same
  have order := millis_lt_iff valid other_valid
  unfold Date.Before at order
  rw [text_eq, text_eq, toDigits_dash_lt_iff same.le, same, Nat.sub_self, Nat.pow_zero,
    Nat.div_one]
  rcases Nat.lt_trichotomy m.date.year other.date.year with before | year | after
  · simp only [before, true_or, true_iff]
    omega
  · have rest := afterYear_lt_iff_millis valid other_valid year
    simp only [year, Nat.lt_irrefl, false_or, true_and, rest]
  · have apart : m.date ≠ other.date := fun same => by rw [same] at after; omega
    simp only [apart, false_and, or_false] at order
    omega

end Moment

namespace Stamp

theorem length_text_eq_iff {m : Moment} (valid : m.Valid) :
    m.text.length = 24 ↔ -30610224000000 ≤ m.millis := by
  have thousand : Date.daysBeforeYear 1000 = 364877 := by decide
  have start : Date.ordinal ⟨1970, 1, 1⟩ = 719162 := by decide
  have days := Date.ordinal_lt_daysBeforeYear_iff valid.date 1000
  have clock := valid.clock_lt
  have year := valid.year
  have three : digitCount m.date.year ≤ 3 ↔ m.date.year < 10 ^ 3 :=
    Nat.length_toDigits_le_iff (by decide) (by decide)
  have four : digitCount m.date.year ≤ 4 ↔ m.date.year < 10 ^ 4 :=
    Nat.length_toDigits_le_iff (by decide) (by decide)
  rw [Moment.length_text, Moment.millis, start]
  omega

/-- Two instants with texts. A text has 24 characters exactly from the year 1000 on, and one less
for each digit that the year misses. Texts of one length are in the order of their instants. Between
any two, the text of the earlier instant is smaller exactly if its year is at most the leading
digits of the later year, as many as it has digits itself. -/
theorem text_order_follows_leading_digits {a b : Int} {s t : String}
    (first : formatValue (.int a) = .ok s) (second : formatValue (.int b) = .ok t) :
    ∃ m other : Moment,
      (m.Valid ∧ m.millis = a ∧ String.ofList m.text = s) ∧
      (other.Valid ∧ other.millis = b ∧ String.ofList other.text = t) ∧
      s.length = digitCount m.date.year + 20 ∧
      (s.length = 24 ↔ -30610224000000 ≤ a) ∧
      (s.length = t.length → (s < t ↔ a < b)) ∧
      (a < b → (s < t ↔ m.date.year ≤ other.date.year / 10 ^ (t.length - s.length))) := by
  rw [formatValue_eq_ok_iff, format_eq_ok_iff] at first second
  obtain ⟨m, valid, rfl, rfl⟩ := first
  obtain ⟨other, other_valid, rfl, rfl⟩ := second
  refine ⟨m, other, ⟨valid, rfl, rfl⟩, ⟨other_valid, rfl, rfl⟩, ?_, ?_, ?_, ?_⟩
  all_goals simp only [String.length_ofList, String.lt_iff_toList_lt, String.toList_ofList]
  · exact m.length_text
  · exact length_text_eq_iff valid
  · exact Moment.text_lt_iff_of_same_length valid other_valid
  · exact Moment.text_lt_iff_of_earlier valid other_valid

theorem text_order_follows_leading_digits_early :
    formatValue (.int (-62135596800000)) = .ok "1-01-01T00:00:00.000Z" ∧
      formatValue (.int (-61851600000000)) = .ok "10-01-01T00:00:00.000Z" ∧
      "1-01-01T00:00:00.000Z" < "10-01-01T00:00:00.000Z" := by
  have first : formatValue (.int (-62135596800000)) = .ok "1-01-01T00:00:00.000Z" := by
    decide +kernel
  have second : formatValue (.int (-61851600000000)) = .ok "10-01-01T00:00:00.000Z" := by
    decide +kernel
  obtain ⟨m, other, ⟨valid, _, text⟩, ⟨other_valid, _, other_text⟩, _, _, _, order⟩ :=
    text_order_follows_leading_digits first second
  have one : m = ⟨⟨1, 1, 1⟩, 0, 0, 0, 0⟩ :=
    Moment.text_inj valid ⟨by decide, by decide, by decide, by decide, by decide, by decide⟩
      (String.ofList_injective text)
  have ten : other = ⟨⟨10, 1, 1⟩, 0, 0, 0, 0⟩ :=
    Moment.text_inj other_valid ⟨by decide, by decide, by decide, by decide, by decide, by decide⟩
      (String.ofList_injective other_text)
  refine ⟨first, second, (order (by decide)).mpr ?_⟩
  rw [one, ten]
  decide

/-- The last millisecond of the year 999 has a text of 23 characters, and a greater one than the
millisecond after it. -/
theorem last_of_three_digits_out_of_order :
    formatValue (.int (-30610224000001)) = .ok "999-12-31T23:59:59.999Z" ∧
      formatValue (.int (-30610224000000)) = .ok "1000-01-01T00:00:00.000Z" ∧
      "999-12-31T23:59:59.999Z".length = 23 ∧
      ¬ "999-12-31T23:59:59.999Z" < "1000-01-01T00:00:00.000Z" := by
  decide +kernel

end Stamp

end MarketSnapshot
