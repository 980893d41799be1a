import CodecReport.Proofs.Number.Decimal

/-!
# The decimal of fewest digits

`Double.shortest` tries finer and finer grids of powers of ten until a decimal on one of them reads back.
A grid is tried completely: when any decimal on it reads back, one of the two neighbours of the count does.
Seventeen digits are always enough, so the search ends, and what it gives reads back as the number it was
made from.
-/

namespace CodecReport

open Double

variable {negative : Bool} {units : Nat} {e : Int}

namespace Decimal

/-- On one grid the order is that of the coefficients. -/
theorem units_le_units_iff {b c : Nat} :
    (⟨negative, b, e⟩ : Decimal).units ≤ (⟨negative, c, e⟩ : Decimal).units ↔ b ≤ c := by
  rw [units_mk, units_mk, mul_le_mul_iff_left₀ cast_unitsPerOne_pos, mul_le_mul_iff_left₀ (ten_zpow_pos e),
    Nat.cast_le]

end Decimal

open Decimal

namespace Double

/-- The nearer neighbour of a count on a grid. -/
def nearer (units : Nat) (e : Int) : Nat :=
  roundDiv .toEven (units * 10 ^ (-e).toNat) (unitsPerOne * 10 ^ e.toNat)

theorem onGrid?_eq (negative : Bool) (units : Nat) (e : Int) :
    onGrid? negative units e = ([nearer units e,
      if nearer units e = countBelow units e then nearer units e + 1 else countBelow units e].map
        fun c => (⟨negative, c, e⟩ : Decimal)).find? fun d => d.toDouble.units? = some units :=
  rfl

theorem mem_neighbours {c : Nat} :
    c ∈ [nearer units e,
      if nearer units e = countBelow units e then nearer units e + 1 else countBelow units e] ↔
      c = countBelow units e ∨ c = countBelow units e + 1 := by
  have hor : nearer units e = countBelow units e ∨ nearer units e = countBelow units e + 1 :=
    roundDiv_eq_or .toEven _ _
  rw [List.mem_cons, List.mem_singleton]
  rcases hor with hbelow | habove
  · rw [if_pos hbelow, hbelow]
  · rw [if_neg (by omega), habove]
    exact or_comm

theorem onGrid?_eq_some (he : Moderate e) {d : Decimal} (hd : onGrid? negative units e = some d) :
    ∃ c, d = ⟨negative, c, e⟩ ∧ IsNearest d.units units ∧
      (c = countBelow units e ∨ c = countBelow units e + 1) := by
  rw [onGrid?_eq] at hd
  obtain ⟨c, hmem, rfl⟩ := List.mem_map.mp (List.mem_of_find?_eq_some hd)
  have hread := List.find?_some hd
  rw [decide_eq_true_eq, units?_toDouble he] at hread
  exact ⟨c, rfl, hread.2, mem_neighbours.mp hmem⟩

/-- When any decimal of a grid reads back as a count, one of its two neighbours there does. -/
theorem onGrid?_isSome (hunits : Representable units) (he : Moderate e) {c : Nat}
    (hc : IsNearest (⟨negative, c, e⟩ : Decimal).units units) : (onGrid? negative units e).isSome := by
  have hself := IsNearest.self (short_of_representable hunits)
  have hneighbour : ∀ b, (b = countBelow units e ∨ b = countBelow units e + 1) →
      IsNearest (⟨negative, b, e⟩ : Decimal).units units → (onGrid? negative units e).isSome := by
    intro b hb hnear
    rw [onGrid?_eq, List.find?_isSome]
    refine ⟨_, List.mem_map_of_mem (mem_neighbours.mpr hb), ?_⟩
    rw [decide_eq_true_eq, units?_toDouble he]
    exact ⟨hunits, hnear⟩
  rcases Nat.lt_or_ge (countBelow units e) c with hlt | hle
  · refine hneighbour _ (.inr rfl) (isNearest_of_between hself hc (units_nonneg _) ?_ ?_)
    · exact (lt_countBelow_succ units e).le
    · exact units_le_units_iff.mpr hlt
  · refine hneighbour _ (.inl rfl) (isNearest_of_between hc hself (units_nonneg _) ?_ ?_)
    · exact units_le_units_iff.mpr hle
    · exact countBelow_le units e

/-- A number closer to a count than half of its last bit has no other nearest count. -/
theorem isNearest_of_close {q : ℚ} (hunits : Short units) (hclose : |q - units| * (2 ^ 54 + 2) < units) :
    IsNearest q units := by
  apply IsNearest.of_gap hunits
  intro u hu hne
  rcases Nat.lt_or_gt_of_ne hne with hlt | hgt
  · have hgap : (u : ℚ) < (units - u) * 2 ^ 53 := by
      rw [← Nat.cast_sub hlt.le]
      exact_mod_cast short_gap hu hunits hlt
    have habs : |(u : ℚ) - units| = units - u := by
      rw [abs_sub_comm]
      exact abs_of_pos (by
        rw [sub_pos]
        exact_mod_cast hlt)
    rw [habs]
    linarith
  · have hgap : (units : ℚ) < (u - units) * 2 ^ 53 := by
      rw [← Nat.cast_sub hgt.le]
      exact_mod_cast short_gap hunits hu hgt
    have habs : |(u : ℚ) - units| = u - units := abs_of_pos (by
      rw [sub_pos]
      exact_mod_cast hgt)
    have hnonneg := abs_nonneg (q - units)
    rw [habs]
    linarith

section Leading

/-- A unit is at least 10⁻³²⁴, and all doubles are below 10³⁰⁹. -/
theorem unitsPerOne_bounds : unitsPerOne ≤ 10 ^ 324 ∧ 2 ^ 2098 ≤ 10 ^ 309 * unitsPerOne := by
  rw [unitsPerOne]
  decide +kernel

variable (hunits : Representable units) (hpos : units ≠ 0)

include hpos in
theorem leadingPower_ge : -324 ≤ leadingPower units := by
  rw [le_leadingPower_iff (by omega), zpow_neg, inv_mul_le_iff₀ (ten_zpow_pos 324)]
  have hone : (1 : ℚ) ≤ units := by exact_mod_cast Nat.one_le_iff_ne_zero.mpr hpos
  have hscale : (unitsPerOne : ℚ) ≤ 10 ^ (324 : Int) := by exact_mod_cast unitsPerOne_bounds.1
  exact hscale.trans (le_mul_of_one_le_right (ten_zpow_pos 324).le hone)

include hunits in
theorem leadingPower_le : leadingPower units ≤ 308 := by
  by_contra hgt
  have hlarge : (10 : ℚ) ^ (309 : Int) * unitsPerOne ≤ units :=
    (le_leadingPower_iff (by omega)).mp (by omega)
  have hnat : 10 ^ 309 * unitsPerOne ≤ units := by exact_mod_cast hlarge
  exact (unitsPerOne_bounds.2.trans hnat).not_gt (representable_iff.mp hunits).1

include hpos in
theorem pow_leadingPower_le : (10 : ℚ) ^ leadingPower units * unitsPerOne ≤ units := by
  have hge := leadingPower_ge hpos
  exact (le_leadingPower_iff (by omega)).mp le_rfl

include hpos in
theorem lt_pow_leadingPower : (units : ℚ) < 10 ^ (leadingPower units + 1) * unitsPerOne := by
  have hge := leadingPower_ge hpos
  by_contra hle
  have hnext : leadingPower units + 1 ≤ leadingPower units :=
    (le_leadingPower_iff (by omega)).mpr (not_lt.mp hle)
  omega

end Leading

theorem abs_nearer_sub_le (negative : Bool) (units : Nat) (e : Int) :
    |(⟨negative, nearer units e, e⟩ : Decimal).units - units| ≤ 10 ^ e * unitsPerOne / 2 := by
  have hstep := mul_pos (ten_zpow_pos e) cast_unitsPerOne_pos
  have hden : 0 < unitsPerOne * 10 ^ e.toNat := Nat.mul_pos unitsPerOne_pos (Nat.pow_pos (by omega))
  have hhalf : |(nearer units e : ℚ) - units / (10 ^ e * unitsPerOne)| ≤ 1 / 2 := by
    rw [nearer, ← ratio_eq]
    exact abs_roundDiv_sub_le .toEven (units * 10 ^ (-e).toNat) hden
  have hscale : (⟨negative, nearer units e, e⟩ : Decimal).units - units =
      ((nearer units e : ℚ) - units / (10 ^ e * unitsPerOne)) * (10 ^ e * unitsPerOne) := by
    rw [sub_mul, div_mul_cancel₀ _ hstep.ne', ← mul_assoc, units_mk]
  rw [hscale, abs_mul, abs_of_pos hstep]
  linarith [mul_le_mul_of_nonneg_right hhalf hstep.le]

/-- Seventeen digits are enough: on their grid the nearer neighbour of a count reads back. -/
theorem isNearest_nearer (negative : Bool) (hunits : Short units) (hpos : units ≠ 0) :
    IsNearest (⟨negative, nearer units (leadingPower units - 16), leadingPower units - 16⟩ : Decimal).units
      units := by
  have hlead : (10 : ℚ) ^ leadingPower units = (10 ^ 16 : Nat) * 10 ^ (leadingPower units - 16) :=
    ten_zpow_split 16 (by omega)
  have hlow := pow_leadingPower_le hpos
  have hclose := abs_nearer_sub_le negative units (leadingPower units - 16)
  have hstep := mul_pos (ten_zpow_pos (leadingPower units - 16)) cast_unitsPerOne_pos
  rw [hlead] at hlow
  push_cast at hlow
  apply isNearest_of_close hunits
  linarith

end Double

/-- A search through the numbers below `n` ends at the first one that gives a result. -/
theorem exists_of_findSome?_range {α : Type} {f : Nat → Option α} {n : Nat} {a : α}
    (h : (List.range n).findSome? f = some a) : ∃ i < n, f i = some a ∧ ∀ j < i, f j = none := by
  induction n with
  | zero => simp at h
  | succ n ih =>
    rw [List.range_succ, List.findSome?_append] at h
    cases hbefore : (List.range n).findSome? f with
    | some b =>
      rw [hbefore, Option.some_or] at h
      obtain ⟨i, hi, hfound⟩ := ih (hbefore.trans h)
      exact ⟨i, by omega, hfound⟩
    | none =>
      rw [hbefore, Option.none_or, List.findSome?_singleton] at h
      exact ⟨n, by omega, h, fun j hj => List.findSome?_eq_none_iff.mp hbefore j (List.mem_range.mpr hj)⟩

namespace Decimal

theorem units_dropZeros (n : Nat) (d : Decimal) : (d.dropZeros n).units = d.units := by
  fun_induction dropZeros n d with
  | case1 => rfl
  | case2 n d hzero ih =>
    have hten : d.coefficient / 10 * 10 = d.coefficient := by omega
    have htenq : ((d.coefficient / 10 : Nat) : ℚ) * 10 = d.coefficient := by exact_mod_cast hten
    rw [ih, units, units, zpow_add_one₀ (by norm_num), ← htenq]
    ring
  | case3 => rfl

@[simp] theorem negative_dropZeros (n : Nat) (d : Decimal) : (d.dropZeros n).negative = d.negative := by
  fun_induction dropZeros n d with
  | case1 => rfl
  | case2 _ _ _ ih => exact ih
  | case3 => rfl

theorem exponent_dropZeros (n : Nat) (d : Decimal) :
    d.exponent ≤ (d.dropZeros n).exponent ∧ (d.dropZeros n).exponent ≤ d.exponent + n := by
  fun_induction dropZeros n d with
  | case1 => omega
  | case2 n d _ ih =>
    obtain ⟨hlow, hhigh⟩ := ih
    constructor
    · exact (Int.le_add_one le_rfl).trans hlow
    · refine hhigh.trans ?_
      push_cast
      omega
  | case3 => omega

theorem coefficient_dropZeros_le (n : Nat) (d : Decimal) :
    (d.dropZeros n).coefficient ≤ d.coefficient := by
  fun_induction dropZeros n d with
  | case1 => exact le_rfl
  | case2 n d _ ih => exact ih.trans (Nat.div_le_self _ _)
  | case3 => exact le_rfl

end Decimal

namespace Double

/-- What `shortest` finds: the first grid on which some decimal reads back, `extra` digits behind the
leading one, and on it the coefficient `c`, whose zeros at the end are then dropped. -/
structure Found (negative : Bool) (units extra c : Nat) : Prop where
  extra_le : extra ≤ 16
  first : ∀ fewer < extra, onGrid? negative units (leadingPower units - (fewer : Nat)) = none
  neighbour : c = countBelow units (leadingPower units - extra) ∨
    c = countBelow units (leadingPower units - extra) + 1
  nearest : IsNearest (⟨negative, c, leadingPower units - extra⟩ : Decimal).units units
  sign : (shortest negative units).negative = negative
  units_eq : (shortest negative units).units =
    (⟨negative, c, leadingPower units - extra⟩ : Decimal).units
  le_exponent : leadingPower units - extra ≤ (shortest negative units).exponent
  exponent_le : (shortest negative units).exponent ≤ leadingPower units - extra + 17
  coefficient_le : (shortest negative units).coefficient ≤ c

theorem shortest_zero (negative : Bool) : shortest negative 0 = ⟨negative, 0, 0⟩ := by
  rw [shortest, if_pos rfl]

section Nonzero

variable (negative) (hunits : Representable units) (hpos : units ≠ 0)

include hunits hpos

theorem moderate_of_extra {extra : Nat} (hextra : extra ≤ 16) :
    Moderate (leadingPower units - extra) := by
  have hge := leadingPower_ge hpos
  have hle := leadingPower_le hunits
  exact ⟨by omega, by omega⟩

/-- The search ends: seventeen digits read back if fewer do not. -/
theorem exists_found : ∃ extra c, Found negative units extra c := by
  have hsome : ((List.range 17).findSome? fun (extra : Nat) =>
      onGrid? negative units (leadingPower units - extra)).isSome := by
    rw [List.findSome?_isSome_iff]
    exact ⟨16, List.mem_range.mpr (by omega),
      onGrid?_isSome hunits (moderate_of_extra hunits hpos le_rfl)
        (isNearest_nearer negative (short_of_representable hunits) hpos)⟩
  obtain ⟨d, hd⟩ := Option.isSome_iff_exists.mp hsome
  obtain ⟨extra, hlt, hgrid, hfirst⟩ := exists_of_findSome?_range hd
  have hextra : extra ≤ 16 := by omega
  have heq : shortest negative units = d.dropZeros 17 := by
    rw [shortest, if_neg hpos]
    simp only [hd, Option.getD_some]
  obtain ⟨c, rfl, hnear, hneighbour⟩ := onGrid?_eq_some (moderate_of_extra hunits hpos hextra) hgrid
  obtain ⟨hlow, hhigh⟩ := exponent_dropZeros 17 ⟨negative, c, leadingPower units - extra⟩
  refine ⟨extra, c, hextra, hfirst, hneighbour, hnear, ?_, ?_, ?_, ?_, ?_⟩ <;> rw [heq]
  · rw [negative_dropZeros]
  · rw [units_dropZeros]
  · exact hlow
  · exact hhigh
  · exact coefficient_dropZeros_le 17 ⟨negative, c, leadingPower units - extra⟩

theorem moderate_shortest : Moderate (shortest negative units).exponent := by
  obtain ⟨extra, c, hfound⟩ := exists_found negative hunits hpos
  have hge := leadingPower_ge hpos
  have hle := leadingPower_le hunits
  have hfew := hfound.extra_le
  have hlow := hfound.le_exponent
  have hhigh := hfound.exponent_le
  exact ⟨by omega, by omega⟩

theorem isNearest_shortest : IsNearest (shortest negative units).units units := by
  obtain ⟨extra, c, hfound⟩ := exists_found negative hunits hpos
  rw [hfound.units_eq]
  exact hfound.nearest

/-- No decimal that reads back stands on a coarser grid. -/
theorem le_exponent_shortest {c : Nat} (he : Moderate e) (hlead : e ≤ leadingPower units)
    (hc : IsNearest (⟨negative, c, e⟩ : Decimal).units units) :
    e ≤ (shortest negative units).exponent := by
  obtain ⟨extra, b, hfound⟩ := exists_found negative hunits hpos
  refine le_trans ?_ hfound.le_exponent
  by_contra hgt
  obtain ⟨fewer, hfewer⟩ := Int.eq_ofNat_of_zero_le (Int.sub_nonneg_of_le hlead)
  have hgrid : leadingPower units - (fewer : Nat) = e := by omega
  have hnone := hfound.first fewer (by omega)
  rw [hgrid] at hnone
  have hsome := onGrid?_isSome hunits he hc
  rw [hnone] at hsome
  exact absurd hsome (by decide)

theorem leadingPower_le_exponent_shortest :
    leadingPower units - 16 ≤ (shortest negative units).exponent := by
  obtain ⟨extra, c, hfound⟩ := exists_found negative hunits hpos
  have hfew := hfound.extra_le
  have hlow := hfound.le_exponent
  omega

/-- The decimal of fewest digits keeps the power of ten of the leading digit. -/
theorem pow_leadingPower_le_shortest :
    (10 : ℚ) ^ leadingPower units * unitsPerOne ≤ (shortest negative units).units := by
  obtain ⟨extra, c, hfound⟩ := exists_found negative hunits hpos
  have hsplit : (10 : ℚ) ^ leadingPower units = (10 ^ extra : Nat) * 10 ^ (leadingPower units - extra) :=
    ten_zpow_split extra (by omega)
  have hlow : 10 ^ extra ≤ countBelow units (leadingPower units - extra) := by
    have hlt := (pow_leadingPower_le hpos).trans_lt
      (lt_countBelow_succ units (leadingPower units - extra))
    rw [hsplit, mul_lt_mul_iff_left₀ cast_unitsPerOne_pos, mul_lt_mul_iff_left₀ (ten_zpow_pos _)] at hlt
    exact Nat.le_of_lt_succ (by exact_mod_cast hlt)
  have hc : 10 ^ extra ≤ c := by
    rcases hfound.neighbour with h | h <;> omega
  rw [hfound.units_eq, hsplit, ← units_mk negative]
  exact units_le_units_iff.mpr hc

theorem coefficient_shortest_le : (shortest negative units).coefficient ≤ 10 ^ 17 := by
  obtain ⟨extra, c, hfound⟩ := exists_found negative hunits hpos
  have hsplit : (10 : ℚ) ^ (leadingPower units + 1) =
      (10 ^ (extra + 1) : Nat) * 10 ^ (leadingPower units - extra) :=
    ten_zpow_split (extra + 1) (by push_cast; omega)
  have hlt : countBelow units (leadingPower units - extra) < 10 ^ (extra + 1) := by
    have hlt := (countBelow_le units (leadingPower units - extra)).trans_lt (lt_pow_leadingPower hpos)
    rw [hsplit, mul_lt_mul_iff_left₀ cast_unitsPerOne_pos, mul_lt_mul_iff_left₀ (ten_zpow_pos _)] at hlt
    exact_mod_cast hlt
  have hpow : 10 ^ (extra + 1) ≤ 10 ^ 17 :=
    Nat.pow_le_pow_right (by omega) (Nat.succ_le_succ hfound.extra_le)
  have hle := hfound.coefficient_le
  rcases hfound.neighbour with h | h <;> omega

end Nonzero

/-- The decimal of fewest digits reads back as the number it was made from. -/
theorem toDouble_shortest (negative : Bool) (hunits : Representable units) :
    (shortest negative units).toDouble = finite negative units hunits := by
  rcases eq_or_ne units 0 with rfl | hpos
  · rw [shortest_zero]
    exact toDouble_zero negative ⟨by omega, by omega⟩ hunits
  · obtain ⟨_, _, hfound⟩ := exists_found negative hunits hpos
    have hread := toDouble_eq_finite (moderate_shortest negative hunits hpos) hunits
      (isNearest_shortest negative hunits hpos)
    rw [hread, hfound.sign]

end Double

end CodecReport
