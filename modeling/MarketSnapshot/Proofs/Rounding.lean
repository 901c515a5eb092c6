import Mathlib
import MarketSnapshot.Binary64.Shortest

namespace MarketSnapshot.Binary64

theorem div_congr {a b c d : Nat} (hb : 0 < b) (hd : 0 < d) (same : a * d = c * b) :
    a / b = c / d := by
  calc
    a / b = a * d / (b * d) := (Nat.mul_div_mul_right a b hd).symm
    _ = c * b / (d * b) := by rw [same, Nat.mul_comm b d]
    _ = c / d := Nat.mul_div_mul_right c d hb

theorem roundHalfEven_congr {a b c d : Nat} (hb : 0 < b) (hd : 0 < d) (same : a * d = c * b) :
    roundHalfEven a b = roundHalfEven c d := by
  have quotient := div_congr hb hd same
  have rest : a % b * d = c % d * b := by
    have ha := Nat.div_add_mod a b
    have hc := Nat.div_add_mod c d
    rw [quotient] at ha
    have left : (b * (c / d) + a % b) * d = (d * (c / d) + c % d) * b := by rw [ha, hc, same]
    have swap : b * (c / d) * d = d * (c / d) * b := by
      rw [Nat.mul_right_comm, Nat.mul_comm b d, Nat.mul_right_comm d (c / d) b]
    rw [Nat.add_mul, Nat.add_mul, swap] at left
    exact Nat.add_left_cancel left
  have below : 2 * (a % b) < b ↔ 2 * (c % d) < d := by
    calc
      2 * (a % b) < b ↔ 2 * (a % b) * d < b * d := (Nat.mul_lt_mul_right hd).symm
      _ ↔ 2 * (c % d) * b < d * b := by
        rw [Nat.mul_assoc, rest, ← Nat.mul_assoc, Nat.mul_comm b d]
      _ ↔ 2 * (c % d) < d := Nat.mul_lt_mul_right hb
  have above : b < 2 * (a % b) ↔ d < 2 * (c % d) := by
    calc
      b < 2 * (a % b) ↔ b * d < 2 * (a % b) * d := (Nat.mul_lt_mul_right hd).symm
      _ ↔ d * b < 2 * (c % d) * b := by
        rw [Nat.mul_assoc, rest, ← Nat.mul_assoc, Nat.mul_comm b d]
      _ ↔ d < 2 * (c % d) := Nat.mul_lt_mul_right hb
  unfold roundHalfEven
  simp only [quotient, below, above]

theorem roundHalfEven_mul (m : Nat) {d : Nat} (hd : 0 < d) : roundHalfEven (m * d) d = m := by
  simp [roundHalfEven, Nat.mul_div_cancel m hd, hd]

theorem two_pow_pos (n : Nat) : 0 < Nat.pow 2 n := Nat.two_pow_pos n

theorem unitsPerOne_pos : 0 < unitsPerOne := by decide +kernel

theorem nearest_congr (negative : Bool) {a b c d : Nat} (hb : 0 < b) (hd : 0 < d)
    (same : a * d = c * b) : nearest negative a b = nearest negative c d := by
  have scaled : a * unitsPerOne * d = c * unitsPerOne * b := by
    rw [Nat.mul_right_comm, same, Nat.mul_right_comm]
  have shift : shiftFor a b = shiftFor c d := by
    unfold shiftFor
    rw [div_congr hb hd scaled]
  have mantissa : ∀ power, 0 < power →
      roundHalfEven (a * unitsPerOne) (b * power) =
        roundHalfEven (c * unitsPerOne) (d * power) := by
    intro power positive
    apply roundHalfEven_congr (Nat.mul_pos hb positive) (Nat.mul_pos hd positive)
    rw [← Nat.mul_assoc, scaled, Nat.mul_assoc]
  dsimp only [nearest]
  rw [shift, mantissa _ (two_pow_pos _)]

theorem log2_magnitude (x : Finite) : Nat.log2 x.magnitude - 52 = x.shift := by
  obtain ⟨negative, mantissa, shift, small, _, canonical⟩ := x
  change mantissa < 2 ^ 53 at small
  change shift = 0 ∨ 2 ^ 52 ≤ mantissa at canonical
  change Nat.log2 (mantissa * 2 ^ shift) - 52 = shift
  rcases canonical with rfl | large
  · by_cases zero : mantissa = 0
    · simp [zero]
    · have bound : Nat.log2 mantissa < 53 := (Nat.log2_lt zero).mpr small
      simp only [Nat.pow_zero, Nat.mul_one]
      omega
  · have positive : mantissa * 2 ^ shift ≠ 0 :=
      Nat.mul_ne_zero (by omega) (Nat.ne_of_gt (Nat.two_pow_pos shift))
    have low : 52 + shift ≤ Nat.log2 (mantissa * 2 ^ shift) := by
      rw [Nat.le_log2 positive, Nat.pow_add]
      exact Nat.mul_le_mul_right _ large
    have high : Nat.log2 (mantissa * 2 ^ shift) < 53 + shift := by
      rw [Nat.log2_lt positive, Nat.pow_add]
      exact Nat.mul_lt_mul_of_pos_right small (Nat.two_pow_pos shift)
    omega

theorem nearest_magnitude (x : Finite) :
    nearest x.negative x.magnitude unitsPerOne = .finite x := by
  have shift : shiftFor x.magnitude unitsPerOne = x.shift := by
    unfold shiftFor
    rw [Nat.mul_div_cancel _ unitsPerOne_pos, log2_magnitude]
  have mantissa : roundHalfEven (x.magnitude * unitsPerOne) (unitsPerOne * Nat.pow 2 x.shift) =
      x.mantissa := by
    have power := two_pow_pos x.shift
    have split : x.magnitude * unitsPerOne = x.mantissa * (unitsPerOne * Nat.pow 2 x.shift) := by
      unfold Finite.magnitude
      rw [Nat.mul_assoc, Nat.mul_comm unitsPerOne]
    rw [split]
    exact roundHalfEven_mul x.mantissa (Nat.mul_pos unitsPerOne_pos power)
  have small : x.mantissa ≠ Nat.pow 2 53 := Nat.ne_of_lt x.canonical.1
  unfold nearest
  simp only [shift, mantissa, small, if_false]
  exact pack_of_canonical x.negative x.canonical

theorem ofDecimal_eq_nearest (negative : Bool) (d : Decimal) :
    ofDecimal negative d =
      nearest negative (d.digits * 10 ^ d.exponent.toNat) (10 ^ (-d.exponent).toNat) := by
  unfold ofDecimal
  by_cases below : d.exponent < 0
  · have whole : d.exponent.toNat = 0 := by omega
    have fraction : (-d.exponent).toNat = d.exponent.natAbs := by omega
    simp only [below, if_true, whole, fraction, Nat.pow_zero, Nat.mul_one]
    rfl
  · have whole : d.exponent.toNat = d.exponent.natAbs := by omega
    have fraction : (-d.exponent).toNat = 0 := by omega
    simp only [below, if_false, whole, fraction, Nat.pow_zero]
    rfl

theorem ofDecimal_shift (negative : Bool) (n k : Nat) (e : Int) :
    ofDecimal negative ⟨n * 10 ^ k, e⟩ = ofDecimal negative ⟨n, e + k⟩ := by
  have ten : ∀ m : Nat, 0 < 10 ^ m := fun m => Nat.pow_pos (by decide)
  rw [ofDecimal_eq_nearest, ofDecimal_eq_nearest]
  apply nearest_congr negative (ten _) (ten _)
  have exponents : k + e.toNat + (-(e + k)).toNat = (e + k).toNat + (-e).toNat := by omega
  rw [Nat.mul_assoc, Nat.mul_assoc, Nat.mul_assoc, ← Nat.pow_add, ← Nat.pow_add, ← Nat.pow_add,
    ← exponents, Nat.add_assoc]

theorem ofDecimal_zero (negative : Bool) (e : Int) :
    ofDecimal negative ⟨0, e⟩ = pack negative 0 0 := by
  rw [ofDecimal_eq_nearest]
  simp [nearest, shiftFor, roundHalfEven]

theorem nearest_mul_five (negative : Bool) (m n : Nat) :
    nearest negative (m * Nat.pow 5 n) (Nat.pow 10 n) = nearest negative m (Nat.pow 2 n) := by
  apply nearest_congr negative (Nat.pow_pos (by decide)) (two_pow_pos n)
  change m * 5 ^ n * 2 ^ n = m * 10 ^ n
  rw [Nat.mul_assoc, ← Nat.mul_pow]

theorem ofDecimal_fraction (negative : Bool) (digits places : Nat) :
    ofDecimal negative ⟨digits, -places⟩ = nearest negative digits (Nat.pow 10 places) := by
  have none_before : (-(places : Int)).toNat = 0 := by omega
  have after : (-(-(places : Int))).toNat = places := by omega
  rw [ofDecimal_eq_nearest, none_before, after, Nat.pow_zero, Nat.mul_one]
  rfl

theorem ofDecimal_exactDecimal (x : Finite) :
    ofDecimal x.negative (exactDecimal x) = .finite x := by
  have units : unitsPerOne = Nat.pow 2 places := by decide +kernel
  rw [exactDecimal, ofDecimal_fraction, nearest_mul_five, ← units]
  exact nearest_magnitude x

/-- The shortest decimal of a number reads back as the number. -/
theorem ofDecimal_shortest (x : Finite) : ofDecimal x.negative (shortest x) = .finite x := by
  unfold shortest
  cases found : (shortestCandidates x).find? fun d => ofDecimal x.negative d == .finite x with
  | none => exact ofDecimal_exactDecimal x
  | some d =>
    have reads := List.find?_some found
    simpa using reads

end MarketSnapshot.Binary64
