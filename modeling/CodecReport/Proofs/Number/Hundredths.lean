import CodecReport.Number.Numeral
import CodecReport.Proofs.Number.Shortest

/-!
# Rounding to hundredths

A finite number is rounded to hundredths on its decimal of fewest digits. There is no result exactly from
10²⁶ on, where the hundredths have more digits than are kept; this bound decides which cells a table can
have. Below it the rounding is idempotent: the double nearest to a whole number of hundredths is written
with two places at most, so the second rounding gives back what it was handed.
-/

namespace CodecReport

open Double

variable {negative : Bool} {units : Nat}

namespace Decimal

/-- With two places or fewer, the hundredths are the number itself. -/
theorem units_hundredths {d : Decimal} (hd : -2 ≤ d.exponent) (s : Bool) :
    (⟨s, d.hundredths, -2⟩ : Decimal).units = d.units := by
  have hdown : (-(d.exponent + 2)).toNat = 0 := by omega
  have hcount : d.hundredths = d.coefficient * 10 ^ (d.exponent + 2).toNat := by
    have hwhole := roundDiv_mul_right .away (d.coefficient * 10 ^ (d.exponent + 2).toNat) Nat.one_pos
    rw [hundredths]
    simp only [hdown, Nat.pow_zero]
    rw [Nat.mul_one] at hwhole
    exact hwhole
  have hpow : (10 : ℚ) ^ d.exponent = (10 ^ (d.exponent + 2).toNat : Nat) * 10 ^ (-2 : Int) :=
    ten_zpow_split _ (by omega)
  rw [units_mk, units, hcount, hpow]
  push_cast
  ring

theorem hundredths_le {d : Decimal} (hd : d.exponent < -2) : d.hundredths ≤ d.coefficient + 1 := by
  have hup : (d.exponent + 2).toNat = 0 := by omega
  have hquot : d.coefficient / 10 ^ (-(d.exponent + 2)).toNat ≤ d.coefficient := Nat.div_le_self _ _
  rw [hundredths]
  simp only [hup, Nat.pow_zero, Nat.mul_one]
  rcases roundDiv_eq_or .away d.coefficient (10 ^ (-(d.exponent + 2)).toNat) with h | h <;>
    rw [h] <;> omega

theorem moderate_hundredths : Moderate (-2) :=
  ⟨by omega, by omega⟩

end Decimal

open Decimal

namespace Double

/-- The units of 10²⁶, which has more hundredths than are kept. -/
def hundredthsLimit : Nat :=
  10 ^ 26 * unitsPerOne

theorem hundredthsLimit_pos : 0 < hundredthsLimit :=
  Nat.mul_pos (by decide) unitsPerOne_pos

theorem hundredthsLimit_le_nearest : hundredthsLimit ≤ nearestUnits hundredthsLimit 1 := by
  decide +kernel

/-- The double nearest to 10²⁶ is above it: the bound is not crossed by reading. -/
theorem hundredthsLimit_le_of_isNearest {q : ℚ} (hq : (hundredthsLimit : ℚ) ≤ q)
    (hnear : IsNearest q units) : hundredthsLimit ≤ units := by
  have hlimit := isNearest_nearestUnits hundredthsLimit Nat.one_pos
  rw [Nat.cast_one, div_one] at hlimit
  exact hundredthsLimit_le_nearest.trans (hlimit.mono hnear hq)

theorem toHundredths?_finite (hunits : Representable units) :
    (finite negative units hunits).toHundredths? =
      if hundredthsPrecision < digitCount (shortest negative units).hundredths then none
      else some (toDouble ⟨negative, (shortest negative units).hundredths, -2⟩) := by
  rw [toHundredths?]

theorem precision_lt_iff {count : Nat} : hundredthsPrecision < digitCount count ↔ 10 ^ 28 ≤ count :=
  lt_digitCount_iff

theorem units_of_limit (s : Bool) : (⟨s, 10 ^ 28, -2⟩ : Decimal).units = hundredthsLimit := by
  rw [units_mk, hundredthsLimit, Nat.cast_mul]
  generalize (unitsPerOne : ℚ) = u
  norm_num

section Nonzero

variable (negative) (hunits : Representable units) (hpos : units ≠ 0)

include hunits hpos

theorem hundredths_ge_of_limit (hlimit : hundredthsLimit ≤ units) :
    10 ^ 28 ≤ (shortest negative units).hundredths := by
  have hlead : 26 ≤ leadingPower units := by
    rw [le_leadingPower_iff (by omega)]
    exact_mod_cast hlimit
  have hexponent : -2 ≤ (shortest negative units).exponent := by
    have hle := leadingPower_le_exponent_shortest negative hunits hpos
    omega
  have hpow : (hundredthsLimit : ℚ) ≤ 10 ^ leadingPower units * unitsPerOne := by
    rw [hundredthsLimit, Nat.cast_mul, Nat.cast_pow, Nat.cast_ofNat]
    exact mul_le_mul_of_nonneg_right (ten_zpow_le hlead) cast_unitsPerOne_pos.le
  have hlow := hpow.trans (pow_leadingPower_le_shortest negative hunits hpos)
  rw [← units_hundredths hexponent negative] at hlow
  exact units_le_units_iff.mp ((units_of_limit negative).trans_le hlow)

theorem hundredths_lt_of_limit (hlimit : units < hundredthsLimit) :
    (shortest negative units).hundredths < 10 ^ 28 := by
  rcases lt_or_ge (shortest negative units).exponent (-2) with hfine | hcoarse
  · have hle := hundredths_le hfine
    have hdigits := coefficient_shortest_le negative hunits hpos
    omega
  · by_contra hge
    have hlarge : (hundredthsLimit : ℚ) ≤ (shortest negative units).units := by
      rw [← units_hundredths hcoarse negative, ← units_of_limit negative]
      exact units_le_units_iff.mpr (Nat.le_of_not_lt hge)
    have hle := hundredthsLimit_le_of_isNearest hlarge (isNearest_shortest negative hunits hpos)
    omega

/-- With two places or fewer, rounding to hundredths gives the number back. -/
theorem toDouble_hundredths (hcoarse : -2 ≤ (shortest negative units).exponent) :
    toDouble ⟨negative, (shortest negative units).hundredths, -2⟩ = finite negative units hunits := by
  refine toDouble_eq_finite moderate_hundredths hunits ?_
  rw [units_hundredths hcoarse]
  exact isNearest_shortest negative hunits hpos

end Nonzero

theorem toHundredths?_zero (h : Representable 0) :
    (finite negative 0 h).toHundredths? = some (finite negative 0 h) := by
  have hcount : (⟨negative, 0, 0⟩ : Decimal).hundredths = 0 := by
    simp [hundredths, roundDiv]
  rw [toHundredths?_finite, shortest_zero, hcount, toDouble_zero negative moderate_hundredths h, if_neg]
  rw [precision_lt_iff]
  omega

theorem toHundredths?_finite_eq_none_iff (hunits : Representable units) :
    (finite negative units hunits).toHundredths? = none ↔ hundredthsLimit ≤ units := by
  rcases eq_or_ne units 0 with rfl | hpos
  · have hlimit := hundredthsLimit_pos
    rw [toHundredths?_zero]
    exact iff_of_false (by exact Option.some_ne_none _) (by omega)
  · rw [toHundredths?_finite, ite_eq_left_iff]
    simp only [reduceCtorEq, imp_false, not_not, precision_lt_iff]
    constructor
    · intro hge
      by_contra hlt
      exact absurd (hundredths_lt_of_limit negative hunits hpos (Nat.lt_of_not_le hlt)) (by omega)
    · exact hundredths_ge_of_limit negative hunits hpos

/-- There are no hundredths exactly of the finite numbers from 10²⁶ on. -/
theorem toHundredths?_eq_none_iff {d : Double} :
    d.toHundredths? = none ↔ ∃ units, d.units? = some units ∧ hundredthsLimit ≤ units := by
  cases d with
  | nan => simp [toHundredths?, units?]
  | infinite => simp [toHundredths?, units?]
  | finite negative units hunits =>
    rw [toHundredths?_finite_eq_none_iff, units?]
    constructor
    · exact fun hle => ⟨units, rfl, hle⟩
    · intro h
      obtain ⟨_, heq, hle⟩ := h
      obtain rfl := Option.some.inj heq
      exact hle

/-- Below the bound, a number of two places or fewer is its own rounding. -/
theorem toHundredths?_of_coarse (hunits : Representable units) (hlimit : units < hundredthsLimit)
    (hcoarse : units ≠ 0 → -2 ≤ (shortest negative units).exponent) :
    (finite negative units hunits).toHundredths? = some (finite negative units hunits) := by
  rcases eq_or_ne units 0 with rfl | hpos
  · exact toHundredths?_zero hunits
  · have hcount := hundredths_lt_of_limit negative hunits hpos hlimit
    rw [toHundredths?_finite, toDouble_hundredths negative hunits hpos (hcoarse hpos), if_neg]
    rw [precision_lt_iff]
    omega

theorem units_one_hundredth (s : Bool) :
    (⟨s, 1, -2⟩ : Decimal).units = (unitsPerOne : ℚ) / (100 : Nat) := by
  rw [units_mk]
  generalize (unitsPerOne : ℚ) = u
  norm_num
  ring

theorem one_hundredth_le : unitsPerOne ≤ 100 * nearestUnits unitsPerOne 100 := by
  decide +kernel

/-- The double nearest to a whole number of hundredths is written with two places at most. -/
theorem coarse_of_hundredths {count : Nat} (hunits : Representable units) (hpos : units ≠ 0)
    (hnear : IsNearest (⟨negative, count, -2⟩ : Decimal).units units) :
    -2 ≤ (shortest negative units).exponent := by
  have hcount : 1 ≤ count := by
    by_contra hzero
    obtain rfl : count = 0 := by omega
    exact hpos (hnear.unique (isNearest_units_zero negative (-2)))
  have hlead : -2 ≤ leadingPower units := by
    have hone : IsNearest (⟨negative, 1, -2⟩ : Decimal).units (nearestUnits unitsPerOne 100) := by
      rw [units_one_hundredth]
      exact isNearest_nearestUnits unitsPerOne (by omega)
    have hmono := hone.mono hnear (units_le_units_iff.mpr hcount)
    have hhundred := one_hundredth_le.trans (Nat.mul_le_mul_left 100 hmono)
    have hcast : (unitsPerOne : ℚ) ≤ 100 * units := by exact_mod_cast hhundred
    rw [le_leadingPower_iff (by omega)]
    generalize (unitsPerOne : ℚ) = u at hcast ⊢
    norm_num
    linarith
  exact le_exponent_shortest negative hunits hpos moderate_hundredths hlead hnear

theorem two_pow_mul_unitsPerOne_lt {n m : Nat} (h : n + 1074 < m) : 2 ^ n * unitsPerOne < 2 ^ m := by
  have hproduct : 2 ^ n * unitsPerOne = 2 ^ (n + 1074) := (Nat.pow_add 2 n 1074).symm
  rw [hproduct]
  exact Nat.pow_lt_pow_right Nat.one_lt_two h

theorem units_two_pow (s : Bool) (n : Nat) :
    (⟨s, 100 * 2 ^ n, -2⟩ : Decimal).units = (2 ^ n * unitsPerOne : Nat) := by
  rw [units_mk, Nat.cast_mul 100, Nat.cast_mul (2 ^ n)]
  generalize (unitsPerOne : ℚ) = u
  ring

theorem short_two_pow_mul_unitsPerOne (n : Nat) : Short (2 ^ n * unitsPerOne) := by
  unfold unitsPerOne
  generalize 1074 = k
  have hpow := short_mul_two_pow (n + k) (Nat.one_le_two_pow (n := 53))
  rwa [Nat.one_mul, Nat.pow_add] at hpow

/-- The double nearest to hundredths is finite if they are not too many. -/
theorem exists_toDouble_of_le (negative : Bool) {count n : Nat} (hn : n + 1074 < 2098)
    (hcount : count ≤ 100 * 2 ^ n) :
    ∃ units, ∃ hunits : Representable units,
      toDouble ⟨negative, count, -2⟩ = finite negative units hunits ∧ units ≤ 2 ^ n * unitsPerOne ∧
        IsNearest (⟨negative, count, -2⟩ : Decimal).units units := by
  obtain ⟨units, hnear⟩ := exists_isNearest (units_nonneg ⟨negative, count, -2⟩)
  have htop : IsNearest (⟨negative, 100 * 2 ^ n, -2⟩ : Decimal).units (2 ^ n * unitsPerOne) := by
    rw [units_two_pow]
    exact IsNearest.self (short_two_pow_mul_unitsPerOne n)
  have hle := hnear.mono htop (units_le_units_iff.mpr hcount)
  have hunits : Representable units :=
    representable_iff.mpr ⟨hle.trans_lt (two_pow_mul_unitsPerOne_lt hn), hnear.short⟩
  exact ⟨units, hunits, toDouble_eq_finite moderate_hundredths hunits hnear, hle, hnear⟩

/-- The double nearest to few hundredths is far below the bound. -/
theorem exists_toDouble_hundredths (negative : Bool) {count : Nat} (hcount : count ≤ 100 * 2 ^ 50) :
    ∃ units, ∃ hunits : Representable units,
      toDouble ⟨negative, count, -2⟩ = finite negative units hunits ∧ units < hundredthsLimit ∧
        IsNearest (⟨negative, count, -2⟩ : Decimal).units units := by
  obtain ⟨units, hunits, hread, hle, hnear⟩ := exists_toDouble_of_le negative (by omega) hcount
  have hlow : units < hundredthsLimit :=
    hle.trans_lt (Nat.mul_lt_mul_of_pos_right (by omega) unitsPerOne_pos)
  exact ⟨units, hunits, hread, hlow, hnear⟩

theorem toHundredths?_fixed {x y : Double} (hy : x.toHundredths? = some y) :
    y.toHundredths? = some y := by
  cases x with
  | nan =>
    obtain rfl := Option.some.inj hy
    rfl
  | infinite negative =>
    obtain rfl := Option.some.inj hy
    rfl
  | finite negative units hunits =>
    have hlimit : units < hundredthsLimit := by
      by_contra hge
      rw [(toHundredths?_finite_eq_none_iff hunits).mpr (Nat.le_of_not_lt hge)] at hy
      exact absurd hy.symm (Option.some_ne_none y)
    by_cases hcoarse : units ≠ 0 → -2 ≤ (shortest negative units).exponent
    · -- the number has two places or fewer: the first rounding already changes nothing
      have hself := toHundredths?_of_coarse hunits hlimit hcoarse
      rw [hself] at hy
      obtain rfl := Option.some.inj hy
      exact hself
    · obtain ⟨hpos, hfine⟩ := Classical.not_imp.mp hcoarse
      have hcount := hundredths_le (lt_of_not_ge hfine)
      have hdigits := coefficient_shortest_le negative hunits hpos
      obtain ⟨read, hread, heq, hlow, hnear⟩ := exists_toDouble_hundredths negative
        (show (shortest negative units).hundredths ≤ 100 * 2 ^ 50 by omega)
      rw [toHundredths?_finite, if_neg (by rw [precision_lt_iff]; omega), heq] at hy
      obtain rfl := Option.some.inj hy
      exact toHundredths?_of_coarse hread hlow fun hne => coarse_of_hundredths hread hne hnear

/-- Numbers that are not finite are their own rounding, and a number that has a rounding to hundredths
is rounded to one that is its own. -/
theorem hundredths_idempotent (x : Double) :
    (x.isFinite = false → x.toHundredths? = some x) ∧
      ∀ y, x.toHundredths? = some y → y.toHundredths? = some y := by
  constructor
  · intro hx
    cases x with
    | nan => rfl
    | infinite => rfl
    | finite => exact absurd hx (by simp [isFinite])
  · intro y hy
    exact toHundredths?_fixed hy

theorem hundredths_idempotent_at_half :
    (toDouble ⟨true, 1005, -3⟩).toHundredths? = some (toDouble ⟨true, 101, -2⟩) ∧
      (toDouble ⟨true, 101, -2⟩).toHundredths? = some (toDouble ⟨true, 101, -2⟩) := by
  have hround : (toDouble ⟨true, 1005, -3⟩).toHundredths? = some (toDouble ⟨true, 101, -2⟩) := by
    decide +kernel
  exact ⟨hround, (hundredths_idempotent _).2 _ hround⟩

end Double

end CodecReport
