import CodecReport.Proofs.Number.Hundredths
import CodecReport.Proofs.Number.Quotient

/-!
# Rounding and order

A greater number is written as a greater decimal, a greater decimal has at least as many hundredths, and more
hundredths are read as a number at least as great: so rounding to hundredths keeps the order of numbers. The
sign has no part in it beyond being carried along, and the hundredths of a decimal are its nearest ones, the
ones farther from zero when two are as near. A quotient of positive numbers is no smaller over a smaller
divisor.
-/

namespace CodecReport

/-! ### A half goes away from zero -/

theorem roundDiv_away_eq (num : Nat) {den : Nat} (hden : 0 < den) :
    roundDiv .away num den = (2 * num + den) / (2 * den) := by
  have hsplit : num = den * (num / den) + num % den := (Nat.div_add_mod num den).symm
  have hrest := Nat.mod_lt num hden
  have hdouble : 0 < 2 * den := by omega
  symm
  rcases Nat.lt_or_ge (2 * (num % den)) den with hlow | hhigh
  · rw [roundDiv_of_lt .away hlow, Nat.div_eq_iff hdouble]
    generalize num / den = below at hsplit
    have hscale : below * (2 * den) = 2 * (den * below) := by ring
    omega
  · have haway : roundDiv .away num den = num / den + 1 := by
      rcases Nat.lt_or_eq_of_le hhigh with hgt | htie
      · exact roundDiv_of_gt .away hgt
      · simp [roundDiv, ← htie]
    rw [haway, Nat.div_eq_iff hdouble]
    generalize num / den = below at hsplit
    have hscale : (below + 1) * (2 * den) = 2 * (den * below) + 2 * den := by ring
    omega

theorem roundDiv_away_eq_floor (num : Nat) {den : Nat} (hden : 0 < den) :
    roundDiv .away num den = ⌊(num : ℚ) / den + 1 / 2⌋₊ := by
  have hdenq : (den : ℚ) ≠ 0 := by exact_mod_cast hden.ne'
  have hquot : (num : ℚ) / den + 1 / 2 = ((2 * num + den : Nat) : ℚ) / (2 * den : Nat) := by
    push_cast
    field_simp
  rw [hquot, Nat.floor_div_eq_div, roundDiv_away_eq num hden]

namespace Decimal

/-- The decimal of the same magnitude with the given sign. -/
def withSign (negative : Bool) (d : Decimal) : Decimal :=
  ⟨negative, d.coefficient, d.exponent⟩

/-- The number that a decimal stands for. -/
def value (d : Decimal) : ℚ :=
  (if d.negative then -1 else 1) * (d.coefficient * 10 ^ d.exponent)

theorem hundredths_eq_floor (d : Decimal) :
    d.hundredths = ⌊(d.coefficient : ℚ) * 10 ^ (d.exponent + 2) + 1 / 2⌋₊ := by
  have hratio : (d.coefficient : ℚ) * 10 ^ (d.exponent + 2) =
      ((d.coefficient * 10 ^ (d.exponent + 2).toNat : Nat) : ℚ) / (10 ^ (-(d.exponent + 2)).toNat : Nat) := by
    rw [ten_zpow_eq_div]
    push_cast
    ring
  rw [hratio, ← roundDiv_away_eq_floor _ (Nat.pow_pos (by omega))]
  rfl

/-- The hundredths of a decimal before they are rounded. -/
theorem units_eq_hundredths (d : Decimal) :
    d.units = d.coefficient * 10 ^ (d.exponent + 2) * (Double.unitsPerOne / 100) := by
  rw [units, zpow_add₀ (by norm_num)]
  generalize (Double.unitsPerOne : ℚ) = u
  norm_num
  ring

/-- A greater decimal has no fewer hundredths. -/
theorem hundredths_mono {d e : Decimal} (hle : d.units ≤ e.units) : d.hundredths ≤ e.hundredths := by
  have hcent : (0 : ℚ) < Double.unitsPerOne / 100 := div_pos cast_unitsPerOne_pos (by norm_num)
  rw [units_eq_hundredths, units_eq_hundredths, mul_le_mul_iff_left₀ hcent] at hle
  rw [hundredths_eq_floor, hundredths_eq_floor]
  apply Nat.floor_mono
  linarith

/-- The decimal rounded to hundredths. -/
def rounded (d : Decimal) : Decimal :=
  ⟨d.negative, d.hundredths, -2⟩

theorem abs_value (d : Decimal) : |d.value| = d.coefficient * 10 ^ d.exponent := by
  have hnonneg : (0 : ℚ) ≤ d.coefficient * 10 ^ d.exponent :=
    mul_nonneg (Nat.cast_nonneg _) (ten_zpow_pos _).le
  rw [value, abs_mul, abs_of_nonneg hnonneg]
  cases d.negative <;> simp

theorem abs_value_rounded_sub (d : Decimal) :
    |d.rounded.value - d.value| = |(d.hundredths : ℚ) - d.coefficient * 10 ^ (d.exponent + 2)| / 100 := by
  have hscale : d.rounded.value - d.value = (if d.negative then -1 else 1) *
      (((d.hundredths : ℚ) - d.coefficient * 10 ^ (d.exponent + 2)) / 100) := by
    rw [value, value, rounded, zpow_add₀ (by norm_num : (10 : ℚ) ≠ 0)]
    cases d.negative <;> norm_num <;> ring
  rw [hscale, abs_mul, abs_div, abs_of_pos (by norm_num : (0 : ℚ) < 100)]
  cases d.negative <;> simp

/-- The rounded decimal is a nearest one, and of two nearest ones the one farther from zero. -/
theorem rounded_nearest (d : Decimal) :
    |d.rounded.value - d.value| ≤ 1 / 200 ∧
      (|d.rounded.value - d.value| = 1 / 200 → |d.value| < |d.rounded.value|) := by
  have hlow := Nat.lt_floor_add_one ((d.coefficient : ℚ) * 10 ^ (d.exponent + 2) + 1 / 2)
  have hhigh := Nat.floor_le (a := (d.coefficient : ℚ) * 10 ^ (d.exponent + 2) + 1 / 2)
    (add_nonneg (mul_nonneg (Nat.cast_nonneg _) (ten_zpow_pos _).le) (by norm_num))
  rw [← hundredths_eq_floor] at hlow hhigh
  rw [abs_value_rounded_sub, abs_value, abs_value]
  refine ⟨?_, fun htie => ?_⟩
  · have hclose : |(d.hundredths : ℚ) - d.coefficient * 10 ^ (d.exponent + 2)| ≤ 1 / 2 := by
      rw [abs_le]
      constructor <;> linarith
    linarith
  · -- the other decimal as near would have one hundredth less
    have habove : (d.coefficient : ℚ) * 10 ^ (d.exponent + 2) < d.hundredths := by
      rcases abs_cases ((d.hundredths : ℚ) - d.coefficient * 10 ^ (d.exponent + 2)) with ⟨h, _⟩ | ⟨h, _⟩ <;>
        linarith
    rw [zpow_add₀ (by norm_num : (10 : ℚ) ≠ 0)] at habove
    simp only [rounded]
    norm_num at habove ⊢
    linarith

end Decimal

open Decimal

namespace Double

/-! ### The sign is carried along -/

/-- What a quotient is rounded to does not depend on the sign. -/
theorem ofUnitRatio_cases (num den : Nat) :
    (∃ n, ∃ hn : Representable n, ∀ negative, ofUnitRatio negative num den = finite negative n hn) ∨
      ∀ negative, ofUnitRatio negative num den = infinite negative := by
  by_cases hn : Representable (nearestUnits num den)
  · exact .inl ⟨_, hn, fun negative => by rw [ofUnitRatio, dif_pos hn]⟩
  · exact .inr fun negative => by rw [ofUnitRatio, dif_neg hn]

theorem toDouble_cases (c : Nat) (e : Int) :
    (∃ n, ∃ hn : Representable n, ∀ negative, toDouble ⟨negative, c, e⟩ = finite negative n hn) ∨
      ∀ negative, toDouble ⟨negative, c, e⟩ = infinite negative := by
  simp only [toDouble, ofRatio]
  generalize c * 10 ^ min e.toNat largestExponent * unitsPerOne = num
  generalize 10 ^ min (-e).toNat (digitCount c + largestExponent) = den
  exact ofUnitRatio_cases num den

theorem units?_toDouble_sign (a b : Bool) (c : Nat) (e : Int) :
    (toDouble ⟨b, c, e⟩).units? = (toDouble ⟨a, c, e⟩).units? := by
  rcases toDouble_cases c e with ⟨n, hn, h⟩ | h
  · rw [h, h, units?, units?]
  · rw [h, h]
    rfl

theorem neg_finite {negative : Bool} {units : Nat} (hunits : Representable units) :
    -finite negative units hunits = finite (!negative) units hunits :=
  rfl

theorem neg_infinite (negative : Bool) : -infinite negative = infinite (!negative) :=
  rfl

theorem toDouble_not (negative : Bool) (c : Nat) (e : Int) :
    toDouble ⟨!negative, c, e⟩ = -toDouble ⟨negative, c, e⟩ := by
  rcases toDouble_cases c e with ⟨n, hn, h⟩ | h
  · rw [h, h, neg_finite]
  · rw [h, h, neg_infinite]

theorem onGrid?_sign (a b : Bool) (units : Nat) (e : Int) :
    onGrid? b units e = (onGrid? a units e).map (withSign b) := by
  rw [onGrid?_eq, onGrid?_eq, List.find?_map, List.find?_map, Option.map_map]
  have hread : ((fun d : Decimal => decide (d.toDouble.units? = some units)) ∘ fun c => ⟨b, c, e⟩) =
      (fun d : Decimal => decide (d.toDouble.units? = some units)) ∘ fun c => ⟨a, c, e⟩ := by
    funext c
    rw [Function.comp_apply, Function.comp_apply, units?_toDouble_sign a b c e]
  have hsign : (fun c => (⟨b, c, e⟩ : Decimal)) = withSign b ∘ fun c => ⟨a, c, e⟩ := rfl
  rw [hread, hsign]

theorem findSome?_onGrid?_sign (a b : Bool) (units : Nat) (lead : Int) (extras : List Nat) :
    (extras.findSome? fun (extra : Nat) => onGrid? b units (lead - extra)) =
      (extras.findSome? fun (extra : Nat) => onGrid? a units (lead - extra)).map (withSign b) := by
  rw [List.map_findSome?]
  refine congrArg (List.findSome? · _) ?_
  funext extra
  rw [Function.comp_apply, onGrid?_sign a b]

theorem dropZeros_withSign (b : Bool) (n : Nat) (d : Decimal) :
    dropZeros n (d.withSign b) = (dropZeros n d).withSign b := by
  induction n generalizing d with
  | zero => rfl
  | succ n ih =>
    rw [dropZeros, dropZeros]
    by_cases hzero : d.coefficient % 10 = 0 ∧ d.coefficient ≠ 0
    · rw [if_pos hzero, if_pos (by exact hzero)]
      exact ih { d with coefficient := d.coefficient / 10, exponent := d.exponent + 1 }
    · rw [if_neg hzero, if_neg (by exact hzero)]

/-- A number and its negative are written with the same digits. -/
theorem shortest_sign (a b : Bool) (units : Nat) : shortest b units = (shortest a units).withSign b := by
  rw [shortest, shortest]
  by_cases hzero : units = 0
  · rw [if_pos hzero, if_pos hzero]
    rfl
  · rw [if_neg hzero, if_neg hzero]
    simp only [findSome?_onGrid?_sign a b]
    generalize (List.range 17).findSome? (fun (extra : Nat) => onGrid? a units (leadingPower units - extra)) = found
    rw [← dropZeros_withSign]
    cases found with
    | none => rfl
    | some d => rfl

theorem negative_shortest (negative : Bool) (units : Nat) : (shortest negative units).negative = negative := by
  rw [shortest_sign negative negative, withSign]

theorem hundredths_shortest_sign (a b : Bool) (units : Nat) :
    (shortest b units).hundredths = (shortest a units).hundredths := by
  rw [shortest_sign a b]
  rfl

/-- The negative of a number is rounded to the negative of its rounding, a zero to the other zero. -/
theorem toHundredths?_neg (x : Double) : (-x).toHundredths? = x.toHundredths?.map (-·) := by
  cases x with
  | nan => rfl
  | infinite negative => rfl
  | finite negative units hunits =>
    rw [neg_finite, toHundredths?_finite, toHundredths?_finite, hundredths_shortest_sign negative, toDouble_not]
    generalize (shortest negative units).hundredths = count
    by_cases hcount : hundredthsPrecision < digitCount count
    · rw [if_pos hcount, if_pos hcount, Option.map_none]
    · rw [if_neg hcount, if_neg hcount, Option.map_some]

/-! ### What rounding gives -/

theorem isNearest_units_shortest (negative : Bool) {units : Nat} (hunits : Representable units) :
    IsNearest (shortest negative units).units units := by
  rcases eq_or_ne units 0 with rfl | hpos
  · rw [shortest_zero]
    exact isNearest_units_zero negative 0
  · exact isNearest_shortest negative hunits hpos

/-- Hundredths that are kept are read as a finite number. -/
theorem exists_toDouble_of_precision (negative : Bool) {count : Nat} (hcount : count < 10 ^ 28) :
    ∃ units, ∃ hunits : Representable units, toDouble ⟨negative, count, -2⟩ = finite negative units hunits ∧
      IsNearest (⟨negative, count, -2⟩ : Decimal).units units := by
  have hbound : count ≤ 100 * 2 ^ 90 := by omega
  obtain ⟨units, hunits, hread, _, hnear⟩ := exists_toDouble_of_le negative (by omega) hbound
  exact ⟨units, hunits, hread, hnear⟩

/-- The rounding of a finite number is the number that its decimal, rounded to hundredths, is read as. -/
theorem toHundredths?_eq_some {negative : Bool} {units : Nat} {hunits : Representable units} {r : Double}
    (hr : (finite negative units hunits).toHundredths? = some r) :
    r = (shortest negative units).rounded.toDouble ∧ ∃ v, ∃ hv : Representable v, r = finite negative v hv ∧
      IsNearest (shortest negative units).rounded.units v := by
  rw [toHundredths?_finite] at hr
  rw [rounded, negative_shortest]
  generalize (shortest negative units).hundredths = count at hr ⊢
  by_cases hlarge : hundredthsPrecision < digitCount count
  · rw [if_pos hlarge] at hr
    cases hr
  · rw [if_neg hlarge] at hr
    rw [precision_lt_iff, Nat.not_le] at hlarge
    obtain ⟨v, hv, hread, hnear⟩ := exists_toDouble_of_precision negative hlarge
    obtain rfl := Option.some.inj hr
    exact ⟨rfl, v, hv, hread, hnear⟩

theorem units_rounded_le_iff {d e : Decimal} :
    d.rounded.units ≤ e.rounded.units ↔ d.hundredths ≤ e.hundredths := by
  rw [rounded, rounded, units_mk, units_mk, mul_le_mul_iff_left₀ cast_unitsPerOne_pos,
    mul_le_mul_iff_left₀ (ten_zpow_pos (-2)), Nat.cast_le]

/-- Of two numbers the one of no less magnitude is rounded to one of no less magnitude. -/
theorem rounded_units_mono {a b : Bool} {u v p q : Nat} (hu : Representable u) (hv : Representable v)
    (hle : u ≤ v) (hp : IsNearest (shortest a u).rounded.units p)
    (hq : IsNearest (shortest b v).rounded.units q) : p ≤ q := by
  refine hp.mono hq (units_rounded_le_iff.mpr ?_)
  rcases Nat.lt_or_eq_of_le hle with hlt | rfl
  · apply hundredths_mono
    by_contra hgt
    -- the greater number is read back from the greater decimal
    have hback := (isNearest_units_shortest b hv).mono (isNearest_units_shortest a hu) (not_le.mp hgt).le
    omega
  · rw [hundredths_shortest_sign b a]

theorem rounded_zero {a : Bool} {p : Nat} (hp : IsNearest (shortest a 0).rounded.units p) : p = 0 := by
  have hcount : (⟨a, 0, 0⟩ : Decimal).hundredths = 0 := by
    rw [hundredths_eq_floor]
    norm_num
  rw [shortest_zero, rounded, hcount] at hp
  exact hp.unique (isNearest_units_zero a (-2))

/-! ### The order of numbers -/

/-- Nothing is below what is not a number, and that is below nothing. -/
instance : LT Double := ⟨fun x y => compare? x y = some .lt⟩

instance : LE Double := ⟨fun x y => compare? x y = some .lt ∨ compare? x y = some .eq⟩

instance (x y : Double) : Decidable (x < y) :=
  inferInstanceAs (Decidable (compare? x y = some .lt))

instance (x y : Double) : Decidable (x ≤ y) :=
  inferInstanceAs (Decidable (_ ∨ _))

theorem finite_le_iff {a b : Bool} {u v : Nat} {hu : Representable u} {hv : Representable v} :
    finite a u hu ≤ finite b v hv ↔ signedUnits a u ≤ signedUnits b v := by
  change some (compare (signedUnits a u) (signedUnits b v)) = some Ordering.lt ∨
    some (compare (signedUnits a u) (signedUnits b v)) = some Ordering.eq ↔ _
  rw [Option.some.injEq, Option.some.injEq, compare_lt_iff_lt, compare_eq_iff_eq]
  exact le_iff_lt_or_eq.symm

theorem finite_lt_iff {a b : Bool} {u v : Nat} {hu : Representable u} {hv : Representable v} :
    finite a u hu < finite b v hv ↔ signedUnits a u < signedUnits b v := by
  change some (compare (signedUnits a u) (signedUnits b v)) = some Ordering.lt ↔ _
  rw [Option.some.injEq, compare_lt_iff_lt]

theorem compare?_swap (x y : Double) : compare? y x = (compare? x y).map Ordering.swap := by
  cases x with
  | nan => cases y <;> rfl
  | infinite a =>
    cases y with
    | nan => rfl
    | infinite b => cases a <;> cases b <;> rfl
    | finite b v hv => cases a <;> rfl
  | finite a u hu =>
    cases y with
    | nan => rfl
    | infinite b => cases b <;> rfl
    | finite b v hv =>
      change some (compare (signedUnits b v) (signedUnits a u)) =
        some (compare (signedUnits a u) (signedUnits b v)).swap
      rw [Std.OrientedOrd.eq_swap]

/-- What is at most some number is not above it. -/
theorem not_lt_of_le {x y : Double} (hle : x ≤ y) : ¬ y < x := by
  intro hlt
  have hback : (compare? x y).map Ordering.swap = some .lt := (compare?_swap x y).symm.trans hlt
  rcases hle with h | h <;> rw [h] at hback <;> cases hback

/-- Rounding to hundredths keeps the order of numbers. -/
theorem toHundredths?_mono {x y r s : Double} (hle : x ≤ y) (hr : x.toHundredths? = some r)
    (hs : y.toHundredths? = some s) : r ≤ s := by
  cases x with
  | nan => rcases hle with h | h <;> cases h
  | infinite a =>
    obtain rfl := Option.some.inj hr
    cases y with
    | nan | infinite b =>
      obtain rfl := Option.some.inj hs
      exact hle
    | finite b v hv =>
      obtain ⟨_, q, hq, rfl, _⟩ := toHundredths?_eq_some hs
      exact hle
  | finite a u hu =>
    obtain ⟨_, p, hp, rfl, hnear⟩ := toHundredths?_eq_some hr
    cases y with
    | nan | infinite b =>
      obtain rfl := Option.some.inj hs
      exact hle
    | finite b v hv =>
      obtain ⟨_, q, hq, rfl, hnear'⟩ := toHundredths?_eq_some hs
      rw [finite_le_iff] at hle ⊢
      cases a <;> cases b <;> simp only [signedUnits, Bool.false_eq_true, if_false, if_true] at hle ⊢
      · exact_mod_cast rounded_units_mono hu hv (by exact_mod_cast hle) hnear hnear'
      · -- a number that is not negative is at most a negative one only if both are zero
        obtain ⟨rfl, rfl⟩ : u = 0 ∧ v = 0 := by omega
        obtain rfl := rounded_zero hnear
        obtain rfl := rounded_zero hnear'
        exact le_rfl
      · omega
      · have hback := rounded_units_mono hv hu (by omega) hnear' hnear
        omega

/-! ### Quotients of positive numbers -/

theorem finite_false_lt_iff {u : Nat} {hu : Representable u} {x : Double} :
    finite false u hu < x ↔ x = infinite false ∨ ∃ v, ∃ hv : Representable v, u < v ∧ x = finite false v hv := by
  cases x with
  | nan =>
    refine iff_of_false (by exact nofun) ?_
    rintro (h | ⟨_, _, _, h⟩) <;> cases h
  | infinite negative =>
    cases negative with
    | false => exact iff_of_true rfl (.inl rfl)
    | true =>
      refine iff_of_false (by exact nofun) ?_
      rintro (h | ⟨_, _, _, h⟩) <;> cases h
  | finite negative v hv =>
    rw [finite_lt_iff]
    constructor
    · intro hlt
      cases negative <;> simp only [signedUnits, Bool.false_eq_true, if_false, if_true] at hlt
      · exact .inr ⟨v, hv, by omega, rfl⟩
      · omega
    · rintro (h | ⟨_, _, hlt, h⟩)
      · cases h
      · cases h
        exact Int.ofNat_lt.mpr hlt

theorem ofUnitRatio_mono {num den num' den' : Nat} (hden : 0 < den) (hden' : 0 < den')
    (hle : (num : ℚ) / den ≤ num' / den') : ofUnitRatio false num den ≤ ofUnitRatio false num' den' := by
  have hnear := isNearest_nearestUnits num hden
  have hunits := hnear.mono (isNearest_nearestUnits num' hden') hle
  by_cases hrep' : Representable (nearestUnits num' den')
  · have hrep : Representable (nearestUnits num den) :=
      representable_iff.mpr ⟨hunits.trans_lt (representable_iff.mp hrep').1, hnear.short⟩
    rw [ofUnitRatio, ofUnitRatio, dif_pos hrep, dif_pos hrep', finite_le_iff]
    exact Int.ofNat_le.mpr hunits
  · rw [ofUnitRatio, ofUnitRatio, dif_neg hrep']
    by_cases hrep : Representable (nearestUnits num den)
    · rw [dif_pos hrep]
      exact .inl rfl
    · rw [dif_neg hrep]
      exact .inr rfl

/-- Of two positive divisors the smaller one gives no smaller quotient, unless infinities are divided. -/
theorem div_antitone {t x y : Double} (ht : zero < t) (hx : zero < x) (hlt : x < y)
    (hfinite : t.isFinite = true ∨ y.isFinite = true) : t / y ≤ t / x := by
  obtain rfl | ⟨u, hu, hupos, rfl⟩ := finite_false_lt_iff.mp hx
  · cases y with
    | nan => cases hlt
    | infinite b => cases b <;> cases hlt
    | finite b v hv => cases hlt
  · obtain rfl | ⟨n, hn, _, rfl⟩ := finite_false_lt_iff.mp ht
    · obtain rfl | ⟨v, hv, _, rfl⟩ := finite_false_lt_iff.mp hlt
      · exact absurd hfinite (by decide)
      · exact .inr rfl
    · rw [div_of_ne_zero hn hu hupos.ne', ofRatio]
      obtain rfl | ⟨v, hv, huv, rfl⟩ := finite_false_lt_iff.mp hlt
      · rcases ofUnitRatio_cases (n * unitsPerOne) u with ⟨m, hm, h⟩ | h
        · rw [h]
          exact finite_le_iff.mpr (Int.ofNat_le.mpr (Nat.zero_le m))
        · rw [h]
          exact .inl rfl
      · rw [div_of_ne_zero hn hv (by omega), ofRatio]
        refine ofUnitRatio_mono (by omega) (by omega) ?_
        have huq : (0 : ℚ) < u := by exact_mod_cast hupos
        exact div_le_div_of_nonneg_left (Nat.cast_nonneg _) huq (by exact_mod_cast huv.le)

end Double

end CodecReport
