import CodecReport.Proofs.Number.Nearest

/-!
# Quotients of doubles

What the quotient of two doubles is, told apart from how it is computed: nothing that is not a number gives one,
neither do two infinities or two zeros; another number divided by zero is infinite, with the sign that the two
signs give; and the quotient of two finite numbers is the one nearest to the exact quotient, or infinite where
that one is too large.
-/

namespace CodecReport.Double

/-- `q` is the quotient of two doubles. The exact quotient of two finite ones is taken in the units that
representable counts are counted in. -/
inductive IsQuotient : Double → Double → Double → Prop
  | nanOver (y : Double) : IsQuotient .nan y .nan
  | overNan (x : Double) : IsQuotient x .nan .nan
  | infinities (a b : Bool) : IsQuotient (.infinite a) (.infinite b) .nan
  | infiniteOver (a b : Bool) {y : Nat} (hy : Representable y) :
    IsQuotient (.infinite a) (.finite b y hy) (.infinite (a != b))
  | overInfinite (a b : Bool) {x : Nat} (hx : Representable x) :
    IsQuotient (.finite a x hx) (.infinite b) (.finite (a != b) 0 representable_zero)
  | zeros (a b : Bool) : IsQuotient (.finite a 0 representable_zero) (.finite b 0 representable_zero) .nan
  | overZero (a b : Bool) {x : Nat} (hx : Representable x) (hpos : x ≠ 0) :
    IsQuotient (.finite a x hx) (.finite b 0 representable_zero) (.infinite (a != b))
  | rounded (a b : Bool) {x y n : Nat} (hx : Representable x) (hy : Representable y) (hpos : y ≠ 0)
    (hn : Representable n) (hnear : IsNearest ((x : ℚ) / y * unitsPerOne) n) :
    IsQuotient (.finite a x hx) (.finite b y hy) (.finite (a != b) n hn)
  | overflow (a b : Bool) {x y n : Nat} (hx : Representable x) (hy : Representable y) (hpos : y ≠ 0)
    (hn : ¬ Representable n) (hnear : IsNearest ((x : ℚ) / y * unitsPerOne) n) :
    IsQuotient (.finite a x hx) (.finite b y hy) (.infinite (a != b))

theorem quotient_units (x y : Nat) : ((x * unitsPerOne : Nat) : ℚ) / y = (x : ℚ) / y * unitsPerOne := by
  rw [Nat.cast_mul, mul_div_right_comm]

variable {a b : Bool} {x y : Nat}

theorem div_of_ne_zero (hx : Representable x) (hy : Representable y) (hpos : y ≠ 0) :
    (.finite a x hx : Double) / .finite b y hy = ofRatio (a != b) x y :=
  if_neg hpos

theorem div_zero (hx : Representable x) (hy : Representable 0) :
    (.finite a x hx : Double) / .finite b 0 hy = if x = 0 then .nan else .infinite (a != b) := by
  change div _ _ = _
  rw [div, if_pos rfl]

/-- The quotient of two finite numbers is the nearest one, or infinite. -/
theorem isQuotient_ofRatio (hx : Representable x) (hy : Representable y) (hpos : y ≠ 0) :
    IsQuotient (.finite a x hx) (.finite b y hy) (ofRatio (a != b) x y) := by
  have hden : 0 < y := Nat.pos_of_ne_zero hpos
  have hnear := isNearest_nearestUnits (x * unitsPerOne) hden
  have hexact := hnear
  rw [quotient_units] at hexact
  by_cases hn : Representable (nearestUnits (x * unitsPerOne) y)
  · rw [ofRatio, ofUnitRatio_eq_finite _ hden hn hnear]
    exact .rounded a b hx hy hpos hn hexact
  · rw [ofRatio, ofUnitRatio_eq_infinite _ hden hn hnear]
    exact .overflow a b hx hy hpos hn hexact

theorem isQuotient_div (x y : Double) : IsQuotient x y (x / y) := by
  cases x with
  | nan => exact .nanOver y
  | infinite a =>
    cases y with
    | nan => exact .overNan _
    | infinite b => exact .infinities a b
    | finite b y hy => exact .infiniteOver a b hy
  | finite a x hx =>
    cases y with
    | nan => exact .overNan _
    | infinite b => exact .overInfinite a b hx
    | finite b y hy =>
      rcases eq_or_ne y 0 with rfl | hpos
      · rw [div_zero]
        rcases eq_or_ne x 0 with rfl | hne
        · rw [if_pos rfl]
          exact .zeros a b
        · rw [if_neg hne]
          exact .overZero a b hx hne
      · rw [div_of_ne_zero hx hy hpos]
        exact isQuotient_ofRatio hx hy hpos

end CodecReport.Double
