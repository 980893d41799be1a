import CodecReport.Number.Decimal
import CodecReport.Proofs.Number.Nearest
import Mathlib.Algebra.Order.Field.Power
import Mathlib.Data.Nat.Cast.Order.Field

/-!
# Decimals and the doubles they read as

A decimal is a rational number of units of 2⁻¹⁰⁷⁴, and the double it reads as is the nearest count. The
other way, the power of ten of the leading digit is tied to the count, and the decimals on one grid of
powers of ten that read back as a count are found whenever there are any.
-/

namespace CodecReport

theorem lt_digitCount_iff {k n : Nat} : k < digitCount n ↔ 10 ^ k ≤ n := by
  constructor
  · intro hlt
    have hne : n ≠ 0 := by
      rintro rfl
      simp [digitCount] at hlt
    exact (Nat.pow_le_pow_right (by omega) (by omega)).trans (pow_digitCount_le hne)
  · intro hle
    exact (Nat.pow_lt_pow_iff_right (by omega)).mp (hle.trans_lt (lt_pow_digitCount n))

/-- A power of ten is a quotient of two natural powers. -/
theorem ten_zpow_eq_div (e : Int) :
    (10 : ℚ) ^ e = ((10 ^ e.toNat : Nat) : ℚ) / ((10 ^ (-e).toNat : Nat) : ℚ) := by
  rcases Int.le_total 0 e with hle | hle
  · obtain ⟨n, rfl⟩ := Int.eq_ofNat_of_zero_le hle
    simp
  · obtain ⟨n, hn⟩ := Int.eq_ofNat_of_zero_le (Int.neg_nonneg_of_nonpos hle)
    obtain rfl : e = -(n : Int) := by omega
    simp

theorem ten_zpow_split {a b : Int} (k : Nat) (hsum : a = k + b) :
    (10 : ℚ) ^ a = ((10 ^ k : Nat) : ℚ) * 10 ^ b := by
  rw [hsum, zpow_add₀ (by norm_num), zpow_natCast, Nat.cast_pow, Nat.cast_ofNat]

theorem ten_zpow_pos (e : Int) : (0 : ℚ) < 10 ^ e :=
  zpow_pos (by norm_num) e

theorem ten_zpow_le {d e : Int} (hle : d ≤ e) : (10 : ℚ) ^ d ≤ 10 ^ e :=
  zpow_le_zpow_right₀ (by norm_num) hle

theorem unitsPerOne_pos : 0 < Double.unitsPerOne := by
  rw [Double.unitsPerOne]
  positivity

theorem short_mul_unitsPerOne {m : Nat} (hm : m ≤ 2 ^ 53) : Short (m * Double.unitsPerOne) := by
  unfold Double.unitsPerOne
  generalize 1074 = k
  exact short_mul_two_pow k hm

theorem cast_unitsPerOne_pos : (0 : ℚ) < Double.unitsPerOne := by
  exact_mod_cast unitsPerOne_pos

namespace Decimal

/-- The magnitude of a decimal, in units. -/
def units (d : Decimal) : ℚ :=
  d.coefficient * 10 ^ d.exponent * Double.unitsPerOne

/-- Exponents that reading a decimal leaves as they are. -/
def Moderate (e : Int) : Prop :=
  -400 ≤ e ∧ e ≤ 400

theorem units_mk (negative : Bool) (c : Nat) (e : Int) :
    (⟨negative, c, e⟩ : Decimal).units = c * 10 ^ e * Double.unitsPerOne := by
  rw [units]

theorem isNearest_units_zero (negative : Bool) (e : Int) :
    IsNearest (⟨negative, 0, e⟩ : Decimal).units 0 := by
  rw [units_mk, Nat.cast_zero, zero_mul, zero_mul]
  exact IsNearest.zero

theorem units_nonneg (d : Decimal) : 0 ≤ d.units :=
  mul_nonneg (mul_nonneg (Nat.cast_nonneg _) (ten_zpow_pos _).le) cast_unitsPerOne_pos.le

theorem units_eq_div (d : Decimal) :
    d.units = ((d.coefficient * 10 ^ d.exponent.toNat * Double.unitsPerOne : Nat) : ℚ) /
      ((10 ^ (-d.exponent).toNat : Nat) : ℚ) := by
  rw [units, ten_zpow_eq_div]
  push_cast
  ring

theorem toDouble_eq {d : Decimal} (hd : Moderate d.exponent) :
    d.toDouble = Double.ofRatio d.negative (d.coefficient * 10 ^ d.exponent.toNat)
      (10 ^ (-d.exponent).toNat) := by
  have hup : min d.exponent.toNat largestExponent = d.exponent.toNat := by
    rw [Nat.min_eq_left]
    have := hd.2
    rw [largestExponent]
    omega
  have hdown : min (-d.exponent).toNat (digitCount d.coefficient + largestExponent) =
      (-d.exponent).toNat := by
    rw [Nat.min_eq_left]
    have := hd.1
    rw [largestExponent]
    omega
  simp only [toDouble, hup, hdown]

theorem toDouble_eq_finite {d : Decimal} (hd : Moderate d.exponent) {n : Nat} (hn : Representable n)
    (hnear : IsNearest d.units n) : d.toDouble = .finite d.negative n hn := by
  rw [units_eq_div] at hnear
  rw [toDouble_eq hd]
  exact Double.ofUnitRatio_eq_finite _ (Nat.pow_pos (by omega)) hn hnear

theorem toDouble_zero (negative : Bool) {e : Int} (he : Moderate e) (h : Representable 0) :
    (⟨negative, 0, e⟩ : Decimal).toDouble = .finite negative 0 h :=
  toDouble_eq_finite he h (isNearest_units_zero negative e)

/-- A decimal reads as a finite double exactly when its nearest count is one that a double holds. -/
theorem units?_toDouble {d : Decimal} (hd : Moderate d.exponent) {n : Nat} :
    d.toDouble.units? = some n ↔ Representable n ∧ IsNearest d.units n := by
  rw [toDouble_eq hd, Double.ofRatio, Double.units?_ofUnitRatio _ (Nat.pow_pos (by omega)),
    units_eq_div]

end Decimal

namespace Double

/-- The leading digit of a count stands at the greatest power of ten that is not above the count. -/
theorem le_leadingPower_iff {units : Nat} {e : Int} (he : -400 ≤ e) :
    e ≤ leadingPower units ↔ (10 : ℚ) ^ e * unitsPerOne ≤ units := by
  obtain ⟨k, hk⟩ := Int.eq_ofNat_of_zero_le (show 0 ≤ e + 400 by omega)
  obtain rfl : e = (k : Int) - (400 : Nat) := by omega
  have hlead : (k : Int) - (400 : Nat) ≤ leadingPower units ↔
      k < digitCount (units * 10 ^ 400 / unitsPerOne) := by
    rw [leadingPower]
    omega
  rw [hlead, lt_digitCount_iff, Nat.le_div_iff_mul_le unitsPerOne_pos, zpow_sub₀ (by norm_num), zpow_natCast,
    zpow_natCast, div_mul_eq_mul_div, div_le_iff₀ (by positivity)]
  exact_mod_cast Iff.rfl

/-- The unit count of a double, written with a point behind the digit of `10 ^ e`, is cut to a whole
number. -/
def countBelow (units : Nat) (e : Int) : Nat :=
  units * 10 ^ (-e).toNat / (unitsPerOne * 10 ^ e.toNat)

theorem ratio_eq (units : Nat) (e : Int) :
    ((units * 10 ^ (-e).toNat : Nat) : ℚ) / ((unitsPerOne * 10 ^ e.toNat : Nat) : ℚ) =
      units / (10 ^ e * unitsPerOne) := by
  have hpos := cast_unitsPerOne_pos
  rw [ten_zpow_eq_div]
  push_cast
  field_simp

theorem countBelow_le (units : Nat) (e : Int) :
    (countBelow units e : ℚ) * 10 ^ e * unitsPerOne ≤ units := by
  have hstep := mul_pos (ten_zpow_pos e) cast_unitsPerOne_pos
  rw [mul_assoc, ← le_div_iff₀ hstep, ← ratio_eq]
  exact Nat.cast_div_le

theorem lt_countBelow_succ (units : Nat) (e : Int) :
    (units : ℚ) < (countBelow units e + 1 : Nat) * 10 ^ e * unitsPerOne := by
  have hstep := mul_pos (ten_zpow_pos e) cast_unitsPerOne_pos
  have hden : 0 < unitsPerOne * 10 ^ e.toNat := Nat.mul_pos unitsPerOne_pos (Nat.pow_pos (by omega))
  have hdenq : (0 : ℚ) < (unitsPerOne * 10 ^ e.toNat : Nat) := by exact_mod_cast hden
  rw [mul_assoc, ← div_lt_iff₀ hstep, ← ratio_eq, div_lt_iff₀ hdenq]
  exact_mod_cast Nat.lt_mul_of_div_lt (Nat.lt_succ_self _) hden

end Double

end CodecReport
