import Mathlib.Order.Monotone.Basic
import MarketSnapshot.Time.Calendar

namespace MarketSnapshot.Date

def yearLength (year : Nat) : Nat := if isLeap year then 366 else 365

theorem isLeap_iff (year : Nat) :
    isLeap year = true ↔ year % 4 = 0 ∧ (year % 100 ≠ 0 ∨ year % 400 = 0) := by
  simp [isLeap]

theorem daysBeforeYear_succ {year : Nat} (first : 1 ≤ year) :
    daysBeforeYear (year + 1) = daysBeforeYear year + yearLength year := by
  obtain ⟨past, rfl⟩ := Nat.exists_eq_add_of_le' first
  have leap := isLeap_iff (past + 1)
  have fourth := Nat.succ_div (a := past) (b := 4)
  have hundredth := Nat.succ_div (a := past) (b := 100)
  have cycle := Nat.succ_div (a := past) (b := 400)
  simp only [Nat.dvd_iff_mod_eq_zero] at fourth hundredth cycle
  have century_quad : (past + 1) % 100 = 0 → (past + 1) % 4 = 0 := by omega
  have cycle_century : (past + 1) % 400 = 0 → (past + 1) % 100 = 0 := by omega
  have few : past / 100 ≤ past := Nat.div_le_self past 100
  simp only [daysBeforeYear, yearLength, Nat.add_sub_cancel, leap, fourth, hundredth, cycle]
  generalize past / 4 = quads at *
  generalize past / 100 = centuries at *
  generalize past / 400 = cycles at *
  clear leap fourth hundredth cycle
  split_ifs <;> omega

theorem daysBeforeYear_mono : Monotone daysBeforeYear := by
  apply monotone_nat_of_le_succ
  intro year
  rcases Nat.eq_zero_or_pos year with rfl | first
  · decide
  · rw [daysBeforeYear_succ first]
    omega

theorem yearLength_bounds (year : Nat) : 365 ≤ yearLength year ∧ yearLength year ≤ 366 := by
  unfold yearLength
  split <;> omega

/-- A year as cycles of 400 years, centuries, quads of years and single years. -/
theorem daysBeforeYear_parts (cycles : Nat) {centuries quads years : Nat} (century : centuries ≤ 3)
    (quad : quads ≤ 24) (single : years ≤ 3) :
    daysBeforeYear (cycles * 400 + centuries * 100 + quads * 4 + years + 1) =
      cycles * 146097 + centuries * 36524 + quads * 1461 + years * 365 := by
  unfold daysBeforeYear
  dsimp only
  omega

theorem splitYear_spec (n : Nat) :
    1 ≤ (splitYear n).1 ∧ daysBeforeYear (splitYear n).1 + (splitYear n).2 = n ∧
      (splitYear n).2 < yearLength (splitYear n).1 := by
  unfold splitYear
  dsimp only
  generalize cycles_def : n / 146097 = cycles
  generalize within_def : n % 146097 = within
  generalize centuries_def : min 3 (within / 36524) = centuries
  generalize rest_def : within - centuries * 36524 = rest
  generalize quads_def : rest / 1461 = quads
  generalize quad_def : rest % 1461 = quad
  generalize years_def : min 3 (quad / 365) = years
  have century : centuries ≤ 3 := by omega
  have rest_bound : rest < 36525 ∧ (centuries < 3 → rest < 36524) := by omega
  have whole : within = centuries * 36524 + rest := by omega
  have quads_bound : quads ≤ 24 := by omega
  have single : years ≤ 3 := by omega
  refine ⟨by omega, ?_, ?_⟩
  · rw [daysBeforeYear_parts cycles century quads_bound single]
    omega
  · -- Only the last year of four can have a day more, and that of a century only in the last one.
    have late : quad - years * 365 < 365 ∨
        quad - years * 365 = 365 ∧ years = 3 ∧ (quads < 24 ∨ centuries = 3) := by omega
    rcases late with common | ⟨more, rfl, last⟩
    · exact common.trans_le (yearLength_bounds _).1
    · have leap : isLeap (cycles * 400 + centuries * 100 + quads * 4 + 3 + 1) = true := by
        rw [isLeap_iff]
        omega
      rw [more, yearLength, if_pos leap]
      decide

theorem year_unique {year other day otherDay : Nat} (first : 1 ≤ year) (other_first : 1 ≤ other)
    (within : day < yearLength year) (other_within : otherDay < yearLength other)
    (same : daysBeforeYear year + day = daysBeforeYear other + otherDay) :
    year = other ∧ day = otherDay := by
  have next := daysBeforeYear_succ first
  have other_next := daysBeforeYear_succ other_first
  rcases Nat.lt_trichotomy year other with earlier | rfl | later
  · have before : daysBeforeYear (year + 1) ≤ daysBeforeYear other := daysBeforeYear_mono earlier
    omega
  · exact ⟨rfl, by omega⟩
  · have before : daysBeforeYear (other + 1) ≤ daysBeforeYear year := daysBeforeYear_mono later
    omega

theorem monthLength_le (year month : Nat) : monthLength year month ≤ 31 := by
  unfold monthLength
  repeat' split
  all_goals decide

theorem daysBeforeMonth_succ (year : Nat) {month : Nat} (first : 1 ≤ month) :
    daysBeforeMonth year (month + 1) = daysBeforeMonth year month + monthLength year month := by
  obtain ⟨before, rfl⟩ := Nat.exists_eq_add_of_le' first
  unfold daysBeforeMonth
  rw [Nat.add_sub_cancel, Nat.add_sub_cancel, List.range_succ, List.foldl_append]
  rfl

theorem daysBeforeMonth_mono (year : Nat) : Monotone (daysBeforeMonth year) := by
  apply monotone_nat_of_le_succ
  intro month
  rcases Nat.eq_zero_or_pos month with rfl | first
  · exact Nat.le_refl _
  · rw [daysBeforeMonth_succ year first]
    omega

theorem daysBeforeMonth_end (year : Nat) : daysBeforeMonth year 13 = yearLength year := by
  unfold daysBeforeMonth yearLength
  simp only [List.range_succ, List.range_zero, monthLength]
  split <;> rfl

theorem splitMonth_spec (year fuel month day : Nat) (rest : month + fuel = 12)
    (first : 1 ≤ month) (within : daysBeforeMonth year month + day < yearLength year) :
    month ≤ (splitMonth year fuel month day).1 ∧ (splitMonth year fuel month day).1 ≤ 12 ∧
      (splitMonth year fuel month day).2 < monthLength year (splitMonth year fuel month day).1 ∧
      daysBeforeMonth year (splitMonth year fuel month day).1 +
        (splitMonth year fuel month day).2 = daysBeforeMonth year month + day := by
  induction fuel generalizing month day with
  | zero =>
    have last : month = 12 := by omega
    subst last
    have december : daysBeforeMonth year 13 = daysBeforeMonth year 12 + monthLength year 12 :=
      daysBeforeMonth_succ year first
    have whole := daysBeforeMonth_end year
    refine ⟨Nat.le_refl _, Nat.le_refl _, ?_, rfl⟩
    simp only [splitMonth]
    omega
  | succ fuel ih =>
    have next := daysBeforeMonth_succ year first
    unfold splitMonth
    dsimp only
    split
    · rename_i inside
      exact ⟨Nat.le_refl _, by omega, inside, rfl⟩
    · rename_i beyond
      obtain ⟨later, bound, inside, same⟩ :=
        ih (month + 1) (day - monthLength year month) (by omega) (by omega) (by omega)
      exact ⟨by omega, bound, inside, by omega⟩

theorem month_unique (year : Nat) {month other day otherDay : Nat} (first : 1 ≤ month)
    (other_first : 1 ≤ other) (within : day < monthLength year month)
    (other_within : otherDay < monthLength year other)
    (same : daysBeforeMonth year month + day = daysBeforeMonth year other + otherDay) :
    month = other ∧ day = otherDay := by
  have next := daysBeforeMonth_succ year first
  have other_next := daysBeforeMonth_succ year other_first
  rcases Nat.lt_trichotomy month other with earlier | rfl | later
  · have before : daysBeforeMonth year (month + 1) ≤ daysBeforeMonth year other :=
      daysBeforeMonth_mono year earlier
    omega
  · exact ⟨rfl, by omega⟩
  · have before : daysBeforeMonth year (other + 1) ≤ daysBeforeMonth year month :=
      daysBeforeMonth_mono year later
    omega

theorem Valid.day_of_year {d : Date} (valid : d.Valid) :
    daysBeforeMonth d.year d.month + (d.day - 1) < yearLength d.year := by
  obtain ⟨_, first, last, _, inside⟩ := valid
  have next := daysBeforeMonth_succ d.year first
  have before : daysBeforeMonth d.year (d.month + 1) ≤ daysBeforeMonth d.year 13 :=
    daysBeforeMonth_mono d.year (by omega)
  rw [daysBeforeMonth_end] at before
  omega

theorem ofOrdinal_spec (n : Nat) : (ofOrdinal n).Valid ∧ (ofOrdinal n).ordinal = n := by
  obtain ⟨first, year_same, year_inside⟩ := splitYear_spec n
  have january : daysBeforeMonth (splitYear n).1 1 = 0 := rfl
  obtain ⟨later, last, inside, same⟩ :=
    splitMonth_spec (splitYear n).1 11 1 (splitYear n).2 rfl (Nat.le_refl _) (by omega)
  constructor
  · exact ⟨first, later, last, by simp [ofOrdinal], inside⟩
  · simp only [ordinal, ofOrdinal, Nat.add_sub_cancel]
    omega

theorem ordinal_inj {d other : Date} (valid : d.Valid) (other_valid : other.Valid)
    (same : d.ordinal = other.ordinal) : d = other := by
  have inside := valid.day_of_year
  have other_inside := other_valid.day_of_year
  obtain ⟨first, month_first, _, day_first, day_last⟩ := valid
  obtain ⟨other_first, other_month_first, _, other_day_first, other_day_last⟩ := other_valid
  obtain ⟨year, month, day⟩ := d
  obtain ⟨otherYear, otherMonth, otherDay⟩ := other
  simp only [ordinal] at *
  obtain ⟨rfl, day_of_year⟩ := year_unique first other_first inside other_inside (by omega)
  have day_inside : day - 1 < monthLength year month := by omega
  have other_day_inside : otherDay - 1 < monthLength year otherMonth := by omega
  obtain ⟨rfl, _⟩ :=
    month_unique year month_first other_month_first day_inside other_day_inside day_of_year
  congr
  omega

theorem ofOrdinal_ordinal {d : Date} (valid : d.Valid) : ofOrdinal d.ordinal = d :=
  ordinal_inj (ofOrdinal_spec d.ordinal).1 valid (ofOrdinal_spec d.ordinal).2

theorem ordinal_lt_daysBeforeYear_iff {d : Date} (valid : d.Valid) (year : Nat) :
    d.ordinal < daysBeforeYear year ↔ d.year < year := by
  have inside := valid.day_of_year
  have next := daysBeforeYear_succ valid.1
  have number : d.ordinal =
      daysBeforeYear d.year + (daysBeforeMonth d.year d.month + (d.day - 1)) := by
    simp only [ordinal]
    omega
  constructor
  · intro early
    by_contra late
    have after : daysBeforeYear year ≤ daysBeforeYear d.year := daysBeforeYear_mono (by omega)
    omega
  · intro early
    have before : daysBeforeYear (d.year + 1) ≤ daysBeforeYear year := daysBeforeYear_mono early
    omega

theorem ordinal_lt_limit_iff {d : Date} (valid : d.Valid) :
    d.ordinal < ordinalLimit ↔ d.year ≤ 9999 :=
  (ordinal_lt_daysBeforeYear_iff valid 10000).trans Nat.lt_succ_iff

end MarketSnapshot.Date
