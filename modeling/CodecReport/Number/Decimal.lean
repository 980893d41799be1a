import CodecReport.Number.Double

/-!
# Decimal numerals

A decimal is a signed whole number times a power of ten. Two directions tie it to doubles: `toDouble`
reads a decimal as the nearest double, and `Double.shortest` finds the decimal of fewest digits that
reads back as the same double, the nearest one when several do.
-/

namespace CodecReport

-- powers are those of the core library, whatever else is imported
attribute [local instance (2000)] instPowNat

/-- The number `± coefficient · 10 ^ exponent`. -/
structure Decimal where
  negative : Bool
  coefficient : Nat
  exponent : Int
  deriving DecidableEq, Repr

/-- How many digits a positive number is written with; none for zero. Large numbers lose sixteen digits at a
time. -/
def digitCount (n : Nat) : Nat :=
  if n = 0 then 0
  else if 10 ^ (16 : Nat) ≤ n then digitCount (n / 10 ^ (16 : Nat)) + 16
  else digitCount (n / 10) + 1
termination_by n
decreasing_by all_goals exact Nat.div_lt_self (by omega) (by decide)

theorem lt_pow_digitCount (n : Nat) : n < 10 ^ digitCount n := by
  fun_induction digitCount n with
  | case1 => decide
  | case2 n _ _ ih =>
    rw [Nat.pow_add]
    exact (Nat.div_lt_iff_lt_mul (by decide)).1 ih
  | case3 n _ _ ih =>
    rw [Nat.pow_succ]
    exact (Nat.div_lt_iff_lt_mul (by decide)).1 ih

theorem pow_digitCount_le {n : Nat} (hn : n ≠ 0) : 10 ^ (digitCount n - 1) ≤ n := by
  fun_induction digitCount n with
  | case1 => exact absurd rfl hn
  | case2 n _ hlarge ih =>
    have hquot : n / 10 ^ (16 : Nat) ≠ 0 := by
      have := Nat.div_pos hlarge (by decide : 0 < 10 ^ (16 : Nat))
      omega
    have hcount : digitCount (n / 10 ^ (16 : Nat)) ≠ 0 := by
      intro h
      have := lt_pow_digitCount (n / 10 ^ (16 : Nat))
      rw [h] at this
      omega
    have hsplit : digitCount (n / 10 ^ (16 : Nat)) + 16 - 1 =
        (digitCount (n / 10 ^ (16 : Nat)) - 1) + 16 := by omega
    rw [hsplit, Nat.pow_add]
    exact (Nat.le_div_iff_mul_le (by decide)).1 (ih hquot)
  | case3 n _ _ ih =>
    by_cases hquot : n / 10 = 0
    · rw [hquot, digitCount]
      simp only [if_true]
      omega
    · have hcount : digitCount (n / 10) ≠ 0 := by
        intro h
        have := lt_pow_digitCount (n / 10)
        rw [h] at this
        omega
      have hsplit : digitCount (n / 10) + 1 - 1 = (digitCount (n / 10) - 1) + 1 := by omega
      rw [hsplit, Nat.pow_succ]
      exact (Nat.le_div_iff_mul_le (by decide)).1 (ih hquot)

namespace Decimal

/-- The largest exponent that can matter: a coefficient other than zero times this power of ten is
beyond every double. -/
def largestExponent : Nat := 400

/-- The double nearest to a decimal. An exponent beyond `largestExponent`, on either side of the
coefficient's digits, is cut to it: the number is infinite or zero all the same. -/
def toDouble (d : Decimal) : Double :=
  let up := min d.exponent.toNat largestExponent
  let down := min (-d.exponent).toNat (digitCount d.coefficient + largestExponent)
  Double.ofRatio d.negative (d.coefficient * 10 ^ up) (10 ^ down)

/-- The decimal with the zeros at the end of its coefficient moved to the exponent, at most `n` of
them. -/
def dropZeros : Nat → Decimal → Decimal
  | 0, d => d
  | n + 1, d =>
    if d.coefficient % 10 = 0 ∧ d.coefficient ≠ 0 then
      dropZeros n { d with coefficient := d.coefficient / 10, exponent := d.exponent + 1 }
    else d

/-- The decimal rounded to a whole number of hundredths, as that number: a half goes away from zero. -/
def hundredths (d : Decimal) : Nat :=
  let shifted := d.exponent + 2
  roundDiv .away (d.coefficient * 10 ^ shifted.toNat) (10 ^ (-shifted).toNat)

end Decimal

namespace Double

/-- The power of ten of the leading digit of a unit count other than zero. -/
def leadingPower (units : Nat) : Int :=
  (digitCount (units * 10 ^ (400 : Nat) / unitsPerOne) : Int) - 401

/-- The decimal on the grid of `10 ^ exponent` that reads back as the given number, the nearer one of
the two neighbours when both do. -/
def onGrid? (negative : Bool) (units : Nat) (exponent : Int) : Option Decimal :=
  let num := units * 10 ^ (-exponent).toNat
  let den := unitsPerOne * 10 ^ exponent.toNat
  let near := roundDiv .toEven num den
  let far := if near = num / den then near + 1 else num / den
  let candidates := [near, far].map fun coefficient => (⟨negative, coefficient, exponent⟩ : Decimal)
  candidates.find? fun candidate => candidate.toDouble.units? = some units

/-- The fewest digits that read back as the given unit count: seventeen always do. -/
def shortest (negative : Bool) (units : Nat) : Decimal :=
  if units = 0 then ⟨negative, 0, 0⟩
  else
    let lead := leadingPower units
    let found := (List.range 17).findSome? fun (extra : Nat) => onGrid? negative units (lead - extra)
    (found.getD ⟨negative, 0, 0⟩).dropZeros 17

end Double

end CodecReport
