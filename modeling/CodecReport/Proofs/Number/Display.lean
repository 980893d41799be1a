import CodecReport.Proofs.Number.Hundredths
import CodecReport.Proofs.Number.Numeral

/-!
# Hundredths on display

A number that was rounded to hundredths is shown with two places, and the places are found by a rounding of
their own, of the exact binary value. The two roundings agree in what they read as. Below 2⁴⁶ doubles lie so
close that the shown hundredths are the ones the number was rounded to. From 2⁴⁶ on doubles lie so far apart
that no other double is near the shown hundredths; 2⁴⁶ itself, whose neighbour below is closer, is shown as
it is.
-/

namespace CodecReport

open Decimal

namespace Double

variable {negative : Bool} {units : Nat}

theorem units_shown (negative : Bool) (units : Nat) :
    |(⟨negative, shownHundredths units, -2⟩ : Decimal).units - units| ≤ (unitsPerOne : ℚ) / 200 := by
  have hnear : shownHundredths units = nearer units (-2) := by
    rw [nearer, shownHundredths]
    simp
  have hhalf := abs_nearer_sub_le negative units (-2)
  rw [← hnear] at hhalf
  refine hhalf.trans_eq ?_
  generalize (unitsPerOne : ℚ) = u
  norm_num
  ring

theorem units_hundredths_eq (negative : Bool) (count : Nat) :
    (⟨negative, count, -2⟩ : Decimal).units = count * (unitsPerOne / 100) := by
  rw [units_mk]
  generalize (unitsPerOne : ℚ) = u
  norm_num
  ring

/-- Where doubles begin to lie farther apart than hundredths. -/
def sparse : Nat := 2 ^ 46 * unitsPerOne

theorem short_sparse : Short sparse :=
  short_mul_unitsPerOne (by decide)

theorem units_sparse (negative : Bool) :
    (⟨negative, 100 * 2 ^ 46, -2⟩ : Decimal).units = sparse := by
  rw [units_hundredths_eq, sparse, Nat.cast_mul (2 ^ 46)]
  generalize (unitsPerOne : ℚ) = u
  norm_num
  ring

/-- The distance of neighbouring doubles just below 2⁴⁶, which is 2⁻⁷. -/
def grain : Nat := 2 ^ 1067

theorem unitsPerOne_eq : unitsPerOne = 128 * grain := by
  rw [unitsPerOne, grain]
  decide +kernel

theorem cast_unitsPerOne : (unitsPerOne : ℚ) = 128 * grain := by
  exact_mod_cast unitsPerOne_eq

theorem grain_pos : (0 : ℚ) < grain := by
  have hpos := cast_unitsPerOne_pos
  rw [cast_unitsPerOne] at hpos
  linarith

theorem short_mul_grain {m : Nat} (hm : m ≤ 2 ^ 53) : Short (m * grain) := by
  unfold grain
  generalize 1067 = k
  exact short_mul_two_pow k hm

/-! ### Where doubles lie close -/

/-- Below 2⁴⁶ every number is within 2⁻⁸ of a double. -/
theorem abs_nearest_sub_le {count : Nat} (hcount : count ≤ 100 * 2 ^ 46)
    (hnear : IsNearest (⟨negative, count, -2⟩ : Decimal).units units) :
    |(units : ℚ) - (⟨negative, count, -2⟩ : Decimal).units| ≤ (unitsPerOne : ℚ) / 256 := by
  generalize hsteps : roundDiv .toEven (count * 128) 100 = steps
  have hclose := abs_roundDiv_sub_le .toEven (count * 128) (show 0 < 100 by decide)
  have hbound : steps ≤ 2 ^ 53 := by
    have hquot : count * 128 / 100 ≤ 2 ^ 53 := by omega
    rcases roundDiv_eq_or .toEven (count * 128) 100 with h | h
    · omega
    · by_contra hlarge
      have hwhole : count * 128 = 2 ^ 53 * 100 := by omega
      rw [hwhole, roundDiv_mul_right .toEven (2 ^ 53) (by decide)] at hsteps
      omega
  rw [hsteps] at hclose
  have hstep := hnear.near (steps * grain) (short_mul_grain hbound)
  refine hstep.trans ?_
  have hpos := grain_pos
  rw [units_hundredths_eq, cast_unitsPerOne, Nat.cast_mul]
  generalize (grain : ℚ) = g at hpos ⊢
  have hscale : (steps : ℚ) * g - count * (128 * g / 100) =
      (steps - (count * 128 : Nat) / (100 : Nat)) * g := by
    push_cast
    ring
  rw [hscale, abs_mul, abs_of_pos hpos]
  linarith [mul_le_mul_of_nonneg_right hclose hpos.le]

/-- Below 2⁴⁶ the shown hundredths are the ones that the number was rounded to. -/
theorem shownHundredths_of_close {count : Nat}
    (hclose : |(units : ℚ) - (⟨negative, count, -2⟩ : Decimal).units| ≤ (unitsPerOne : ℚ) / 256) :
    shownHundredths units = count := by
  have hshown := units_shown negative units
  have hpos := cast_unitsPerOne_pos
  rw [units_hundredths_eq] at hclose hshown
  have htriangle := abs_sub_le ((shownHundredths units : ℚ) * (unitsPerOne / 100)) units
    (count * (unitsPerOne / 100))
  have hlt : |(shownHundredths units : ℚ) - count| < 1 := by
    rw [← sub_mul, abs_mul, abs_of_pos (show (0 : ℚ) < unitsPerOne / 100 by positivity)] at htriangle
    generalize (unitsPerOne : ℚ) = u at *
    by_contra hge
    have hscaled := mul_le_mul_of_nonneg_right (not_lt.mp hge) (show (0 : ℚ) ≤ u / 100 by positivity)
    linarith
  by_contra hne
  have hone : (1 : ℤ) ≤ |(shownHundredths units : ℤ) - count| :=
    Int.one_le_abs (sub_ne_zero.mpr (by exact_mod_cast hne))
  have honeq : (1 : ℚ) ≤ |(shownHundredths units : ℚ) - count| := by exact_mod_cast hone
  linarith

/-! ### Where doubles lie apart -/

theorem log2_sparse : sparse.log2 = 1120 := by
  unfold sparse unitsPerOne
  -- with a literal exponent Lean would try to write the power out
  generalize hexponent : 1074 = k
  have hlog : (2 ^ 46 * 2 ^ k).log2 = 46 + k := by rw [← Nat.pow_add, Nat.log2_two_pow]
  exact hlog.trans (by omega)

theorem two_grain_le {k : Nat} (hk : 1067 < k) : 2 * grain ≤ 2 ^ k := by
  unfold grain
  generalize 1067 = j at hk ⊢
  rw [Nat.mul_comm, ← Nat.pow_succ]
  exact Nat.pow_le_pow_right (by decide) hk

/-- From 2⁴⁶ on two doubles are apart by 2⁻⁶ at least. -/
theorem sparse_gap {a b : Nat} (ha : Short a) (hb : Short b) (hlow : sparse ≤ a) (hlt : a < b) :
    a + 2 * grain ≤ b := by
  have hlog := log2_le_log2 hlow
  rw [log2_sparse] at hlog
  have hstep : 2 * grain ≤ 2 ^ (a.log2 - 52) := two_grain_le (by omega)
  have hnext := short_next_le ha hb hlt
  omega

/-- Above 2⁴⁶ every other double is far from the shown hundredths. -/
theorem isNearest_shown_of_sparse (negative : Bool) (hunits : Short units) (hlow : sparse < units) :
    IsNearest (⟨negative, shownHundredths units, -2⟩ : Decimal).units units := by
  have hshown := units_shown negative units
  have hpos := grain_pos
  rw [cast_unitsPerOne] at hshown
  have hgap : ∀ u, Short u → u ≠ units → (2 * grain : ℚ) ≤ |(u : ℚ) - units| := by
    intro u hu hne
    rcases Nat.lt_or_gt_of_ne hne with hlt | hgt
    · have hbelow : u + 2 * grain ≤ units := by
        rcases Nat.lt_or_ge u sparse with hfine | hcoarse
        · have hnext := sparse_gap short_sparse hunits le_rfl hlow
          omega
        · exact sparse_gap hu hunits hcoarse hlt
      have hcast : (u : ℚ) + 2 * grain ≤ units := by exact_mod_cast hbelow
      rw [abs_sub_comm]
      exact le_abs.mpr (.inl (by linarith))
    · have habove := sparse_gap hunits hu hlow.le hgt
      have hcast : (units : ℚ) + 2 * grain ≤ u := by exact_mod_cast habove
      exact le_abs.mpr (.inl (by linarith))
  apply IsNearest.of_gap hunits
  intro u hu hne
  have hfar := hgap u hu hne
  linarith

theorem shownHundredths_sparse : shownHundredths sparse = 100 * 2 ^ 46 := by
  have hproduct : sparse * 100 = 100 * 2 ^ 46 * unitsPerOne := by
    rw [sparse]
    generalize unitsPerOne = u
    ring
  rw [shownHundredths, hproduct, roundDiv_mul_right .toEven _ unitsPerOne_pos]

/-! ### Agreement -/

/-- The shown hundredths of a number that is nearest to some hundredths read as that number. -/
theorem isNearest_shown {count : Nat} (hnear : IsNearest (⟨negative, count, -2⟩ : Decimal).units units) :
    IsNearest (⟨negative, shownHundredths units, -2⟩ : Decimal).units units := by
  rcases Nat.lt_trichotomy units sparse with hlt | heq | hgt
  · have hcount : count ≤ 100 * 2 ^ 46 := by
      by_contra hlarge
      have hself : IsNearest (⟨negative, 100 * 2 ^ 46, -2⟩ : Decimal).units sparse := by
        rw [units_sparse]
        exact .self short_sparse
      have hmono := hself.mono hnear (units_le_units_iff.mpr (by omega))
      omega
    rw [shownHundredths_of_close (abs_nearest_sub_le hcount hnear)]
    exact hnear
  · rw [heq, shownHundredths_sparse, units_sparse]
    exact .self short_sparse
  · exact isNearest_shown_of_sparse negative hnear.short hgt

/-- The text with two places of a number that was rounded to hundredths reads back as that number; what is
not finite is shown as its word. -/
theorem ofText?_fixed2_of_hundredths {x d : Double} (hd : x.toHundredths? = some d) :
    ofText? d.fixed2 = some d := by
  cases x with
  | nan =>
    obtain rfl := Option.some.inj hd
    exact ofText?_nonFiniteText rfl
  | infinite negative =>
    obtain rfl := Option.some.inj hd
    exact ofText?_nonFiniteText rfl
  | finite negative exact hexact =>
    rw [toHundredths?_finite] at hd
    split at hd
    · cases hd
    · generalize (shortest negative exact).hundredths = count at hd
      obtain rfl := Option.some.inj hd
      cases hread : toDouble ⟨negative, count, -2⟩ with
      | nan => exact ofText?_nonFiniteText rfl
      | infinite sign => exact ofText?_nonFiniteText rfl
      | finite sign units hunits =>
        have hfound : (toDouble ⟨negative, count, -2⟩).units? = some units := by
          rw [hread]
          rfl
        have hnear := ((units?_toDouble (d := ⟨negative, count, -2⟩) moderate_hundredths).mp hfound).2
        have hsame := toDouble_eq_finite (d := ⟨negative, count, -2⟩) moderate_hundredths hunits hnear
        rw [hread] at hsame
        obtain ⟨rfl, -⟩ := Double.finite.inj hsame
        rw [ofText?_fixed2_finite hunits]
        exact congrArg some (toDouble_eq_finite moderate_hundredths hunits (isNearest_shown hnear))

end Double

end CodecReport
