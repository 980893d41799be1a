import CodecReport.Number.Double
import CodecReport.Proofs.Number.Rounding
import Mathlib.Data.Nat.Log

/-!
# The nearest count of 53 bits

A rational number of units is rounded to the nearest count of at most 53 significant bits, a tie going to
the count whose significand is even. `IsNearest` says this without a word on how the count is found.
There is one such count for every number, it grows with the number, and `nearestUnits` finds it.
-/

namespace CodecReport

/-- A count of at most 53 significant bits. -/
def Short (u : Nat) : Prop :=
  u % 2 ^ (u.log2 - 52) = 0

/-- The leading 53 bits of a count. -/
def significand (u : Nat) : Nat :=
  u / 2 ^ (u.log2 - 52)

theorem representable_iff {u : Nat} : Representable u ↔ u < 2 ^ 2098 ∧ Short u := by
  -- with a literal exponent Lean would try to write the power out
  unfold Representable
  generalize 2098 = k
  exact Iff.rfl

theorem short_of_representable {u : Nat} (hu : Representable u) : Short u :=
  (representable_iff.mp hu).2

theorem log2_le_log2 {a b : Nat} (hle : a ≤ b) : a.log2 ≤ b.log2 := by
  rw [Nat.log2_eq_log_two, Nat.log2_eq_log_two]
  exact Nat.log_mono_right hle

theorem two_pow_dvd_of_short {a b : Nat} (hb : Short b) (hle : a ≤ b) :
    2 ^ (a.log2 - 52) ∣ b := by
  have hlog := log2_le_log2 hle
  exact (Nat.pow_dvd_pow 2 (by omega)).trans (Nat.dvd_of_mod_eq_zero hb)

theorem short_mul_two_pow {m : Nat} (k : Nat) (hm : m ≤ 2 ^ 53) : Short (m * 2 ^ k) := by
  apply Nat.mod_eq_zero_of_dvd
  rcases Nat.eq_zero_or_pos m with rfl | hpos
  · simp
  rcases Nat.lt_or_eq_of_le hm with hlt | rfl
  · have hne : m * 2 ^ k ≠ 0 := Nat.mul_ne_zero (by omega) (Nat.two_pow_pos k).ne'
    have hlog : (m * 2 ^ k).log2 < 53 + k := by
      rw [Nat.log2_lt hne, Nat.pow_add]
      exact Nat.mul_lt_mul_of_pos_right hlt (Nat.two_pow_pos k)
    exact (Nat.pow_dvd_pow 2 (by omega)).trans (Nat.dvd_mul_left _ _)
  · rw [← Nat.pow_add, Nat.log2_two_pow]
    exact Nat.pow_dvd_pow 2 (by omega)

theorem lt_two_pow_of_log2 (u : Nat) : u < 2 ^ 53 * 2 ^ (u.log2 - 52) := by
  have hlt : u < 2 ^ (u.log2 + 1) := Nat.lt_log2_self
  have hle : 2 ^ (u.log2 + 1) ≤ 2 ^ (53 + (u.log2 - 52)) := Nat.pow_le_pow_right (by omega) (by omega)
  rw [← Nat.pow_add]
  omega

/-- Two counts of 53 bits are apart by the last of those bits at least. -/
theorem short_next_le {a b : Nat} (ha : Short a) (hb : Short b) (hlt : a < b) :
    a + 2 ^ (a.log2 - 52) ≤ b := by
  have hdvd : 2 ^ (a.log2 - 52) ∣ b - a :=
    Nat.dvd_sub (two_pow_dvd_of_short hb hlt.le) (Nat.dvd_of_mod_eq_zero ha)
  have hgap := Nat.le_of_dvd (by omega) hdvd
  omega

theorem short_gap {a b : Nat} (ha : Short a) (hb : Short b) (hlt : a < b) : a < (b - a) * 2 ^ 53 := by
  have hnext := short_next_le ha hb hlt
  have hbound := lt_two_pow_of_log2 a
  have hscaled := Nat.mul_le_mul_left (2 ^ 53) (Nat.le_sub_of_add_le' hnext)
  omega

theorem significand_mul {a : Nat} (ha : Short a) : significand a * 2 ^ (a.log2 - 52) = a :=
  Nat.div_mul_cancel (Nat.dvd_of_mod_eq_zero ha)

theorem significand_lt (a : Nat) : significand a < 2 ^ 53 := by
  rw [significand, Nat.div_lt_iff_lt_mul (Nat.two_pow_pos _)]
  exact lt_two_pow_of_log2 a

theorem two_pow_le_significand {a : Nat} (ha : a.log2 - 52 ≠ 0) : 2 ^ 52 ≤ significand a := by
  have hne : a ≠ 0 := by
    rintro rfl
    simp at ha
  rw [significand, Nat.le_div_iff_mul_le (Nat.two_pow_pos _), ← Nat.pow_add]
  exact (Nat.pow_le_pow_right (by omega) (by omega)).trans (Nat.log2_self_le hne)

theorem significand_mul_two_pow {m k : Nat} (hlow : 2 ^ 52 ≤ m ∨ k = 0) (hhigh : m < 2 ^ 53) :
    significand (m * 2 ^ k) = m := by
  have hshift : (m * 2 ^ k).log2 - 52 = k := by
    rcases hlow with hlow | rfl
    · have hne : m * 2 ^ k ≠ 0 := Nat.mul_ne_zero (by omega) (Nat.two_pow_pos k).ne'
      have hlog : (m * 2 ^ k).log2 = 52 + k := by
        rw [Nat.log2_eq_iff hne]
        constructor
        · rw [Nat.pow_add]
          exact Nat.mul_le_mul_right _ hlow
        · rw [Nat.add_right_comm, Nat.pow_add]
          exact Nat.mul_lt_mul_of_pos_right hhigh (Nat.two_pow_pos k)
      omega
    · rcases Nat.eq_zero_or_pos m with rfl | hpos
      · simp
      · have hlog : m.log2 < 53 := (Nat.log2_lt (by omega)).mpr hhigh
        rw [Nat.pow_zero, Nat.mul_one]
        omega
  rw [significand, hshift]
  exact Nat.mul_div_cancel m (Nat.two_pow_pos k)

/-- The number `n` is the count of at most 53 significant bits nearest to `q`, the one with the even
significand when another is as near. -/
structure IsNearest (q : ℚ) (n : Nat) : Prop where
  short : Short n
  near : ∀ u, Short u → |(n : ℚ) - q| ≤ |(u : ℚ) - q|
  even : ∀ u, Short u → u ≠ n → |(u : ℚ) - q| = |(n : ℚ) - q| → Even (significand n)

namespace IsNearest

variable {q r : ℚ} {m n : Nat}

/-- A count of 53 bits is nearest to itself. -/
theorem self (hn : Short n) : IsNearest n n where
  short := hn
  near u _ := by
    rw [sub_self, abs_zero]
    exact abs_nonneg _
  even u _ hne htie := by
    rw [sub_self, abs_zero, abs_eq_zero, sub_eq_zero] at htie
    exact absurd (by exact_mod_cast htie) hne

theorem zero : IsNearest 0 0 := by
  exact_mod_cast self (Nat.zero_mod _ : Short 0)

/-- A number has no other nearest count when it is nearer to one than half way to any other. -/
theorem of_gap (hn : Short n) (hgap : ∀ u, Short u → u ≠ n → 2 * |q - n| < |(u : ℚ) - n|) :
    IsNearest q n := by
  have hfar : ∀ u, Short u → u ≠ n → |(n : ℚ) - q| < |(u : ℚ) - q| := by
    intro u hu hne
    have htriangle := abs_sub_le (u : ℚ) q n
    have hlarge := hgap u hu hne
    rw [abs_sub_comm (n : ℚ) q]
    linarith
  refine ⟨hn, ?near, ?even⟩
  case near =>
    intro u hu
    rcases eq_or_ne u n with rfl | hne
    · exact le_rfl
    · exact (hfar u hu hne).le
  case even =>
    intro u hu hne htie
    exact absurd htie (hfar u hu hne).ne'

/-- Of two neighbours among the counts of 53 bits, one has an odd significand. -/
theorem not_even_of_neighbour {a b : Nat} (ha : Short a) (hb : Short b) (hlt : a < b)
    (hnone : ∀ u, Short u → a < u → b ≤ u) (heven : Even (significand a)) :
    ¬ Even (significand b) := by
  have hscale : (significand a + 1) * 2 ^ (a.log2 - 52) = a + 2 ^ (a.log2 - 52) := by
    rw [Nat.add_mul, significand_mul ha, Nat.one_mul]
  have hnext : b = (significand a + 1) * 2 ^ (a.log2 - 52) := by
    have hshort := short_mul_two_pow (a.log2 - 52) (significand_lt a)
    have hpos := Nat.two_pow_pos (a.log2 - 52)
    apply Nat.le_antisymm
    · exact hnone _ hshort (by omega)
    · rw [hscale]
      exact short_next_le ha hb hlt
  have hodd : ¬ Even (significand a + 1) := by
    rw [Nat.even_add_one, not_not]
    exact heven
  have hhigh : significand a + 1 < 2 ^ 53 := by
    have hlt := significand_lt a
    rw [Nat.even_iff] at heven
    omega
  have hlow : 2 ^ 52 ≤ significand a + 1 ∨ a.log2 - 52 = 0 := by
    by_cases hshift : a.log2 - 52 = 0
    · exact .inr hshift
    · exact .inl (Nat.le_succ_of_le (two_pow_le_significand hshift))
  rw [hnext, significand_mul_two_pow hlow hhigh]
  exact hodd

private theorem not_lt_of_nearest (hm : IsNearest q m) (hn : IsNearest q n) : ¬ m < n := by
  intro hlt
  have hltq : (m : ℚ) < n := by exact_mod_cast hlt
  have hsame := le_antisymm (hm.near n hn.short) (hn.near m hm.short)
  -- the number lies in the middle, and every count between the two would be nearer
  have hmid : (m : ℚ) + n = 2 * q := by
    rcases abs_eq_abs.mp hsame with h | h <;> linarith
  have hnone : ∀ u, Short u → m < u → n ≤ u := by
    intro u hu hmu
    by_contra hun
    have hmuq : (m : ℚ) < u := by exact_mod_cast hmu
    have hunq : (u : ℚ) < n := by exact_mod_cast Nat.lt_of_not_le hun
    have hnear := hm.near u hu
    rw [abs_of_neg (by linarith : (m : ℚ) - q < 0)] at hnear
    rcases le_abs'.mp hnear with h | h <;> linarith
  have heven := hm.even n hn.short hlt.ne' hsame.symm
  exact not_even_of_neighbour hm.short hn.short hlt hnone heven (hn.even m hm.short hlt.ne hsame)

/-- There is one nearest count. -/
theorem unique (hm : IsNearest q m) (hn : IsNearest q n) : m = n :=
  Nat.le_antisymm (Nat.le_of_not_lt (not_lt_of_nearest hn hm)) (Nat.le_of_not_lt (not_lt_of_nearest hm hn))

/-- The nearest count grows with the number. -/
theorem mono (hm : IsNearest q m) (hn : IsNearest r n) (hle : q ≤ r) : m ≤ n := by
  by_contra hlt
  have hltq : (n : ℚ) < m := by exact_mod_cast Nat.lt_of_not_le hlt
  have hlow : (n : ℚ) + m ≤ 2 * q := by
    have hnear := hm.near n hn.short
    rcases abs_cases ((m : ℚ) - q) with ⟨h, _⟩ | ⟨h, _⟩ <;>
      rcases abs_cases ((n : ℚ) - q) with ⟨h', _⟩ | ⟨h', _⟩ <;> linarith
  have hhigh : 2 * r ≤ (n : ℚ) + m := by
    have hnear := hn.near m hm.short
    rcases abs_cases ((m : ℚ) - r) with ⟨h, _⟩ | ⟨h, _⟩ <;>
      rcases abs_cases ((n : ℚ) - r) with ⟨h', _⟩ | ⟨h', _⟩ <;> linarith
  have hqr : q = r := by linarith
  subst hqr
  exact hlt (hm.unique hn).le

end IsNearest

namespace Double

/-- The distance to a count of the grid `2 ^ k`, measured in steps of the grid. -/
theorem abs_grid_sub (num : Nat) {den : Nat} (hden : 0 < den) (t k : Nat) :
    |((t * 2 ^ k : Nat) : ℚ) - num / den| = 2 ^ k * |(t : ℚ) - num / (den * 2 ^ k : Nat)| := by
  have hdenq : (den : ℚ) ≠ 0 := by exact_mod_cast hden.ne'
  have hpow : (0 : ℚ) < 2 ^ k := by positivity
  have hscale : ((t * 2 ^ k : Nat) : ℚ) - num / den = 2 ^ k * ((t : ℚ) - num / (den * 2 ^ k : Nat)) := by
    push_cast
    field_simp
  rw [hscale, abs_mul, abs_of_pos hpow]

/-- The grid on which `nearestUnits` rounds. -/
def gridShift (num den : Nat) : Nat :=
  (num / den).log2 - 52

/-- How many steps of that grid the rounded number takes. -/
def gridSteps (num den : Nat) : Nat :=
  roundDiv .toEven num (den * 2 ^ gridShift num den)

theorem nearestUnits_eq (num den : Nat) :
    nearestUnits num den = gridSteps num den * 2 ^ gridShift num den :=
  rfl

theorem gridSteps_le (num den : Nat) : gridSteps num den ≤ 2 ^ 53 := by
  have hfloor : num / (den * 2 ^ gridShift num den) < 2 ^ 53 := by
    rw [← Nat.div_div_eq_div_mul, Nat.div_lt_iff_lt_mul (Nat.two_pow_pos _)]
    exact lt_two_pow_of_log2 (num / den)
  rcases roundDiv_eq_or .toEven num (den * 2 ^ gridShift num den) with h | h <;>
    rw [gridSteps, h] <;> omega

theorem two_pow_le_div {num den : Nat} (hshift : gridShift num den ≠ 0) :
    2 ^ 52 * 2 ^ gridShift num den ≤ num / den := by
  have hne : num / den ≠ 0 := by
    intro h
    rw [gridShift, h] at hshift
    simp at hshift
  rw [← Nat.pow_add]
  rw [gridShift] at hshift
  exact (Nat.pow_le_pow_right (by omega) (by rw [gridShift]; omega)).trans (Nat.log2_self_le hne)

theorem two_pow_le_gridSteps {num den : Nat} (hshift : gridShift num den ≠ 0) :
    2 ^ 52 ≤ gridSteps num den := by
  have hfloor : 2 ^ 52 ≤ num / (den * 2 ^ gridShift num den) := by
    rw [← Nat.div_div_eq_div_mul, Nat.le_div_iff_mul_le (Nat.two_pow_pos _)]
    exact two_pow_le_div hshift
  rcases roundDiv_eq_or .toEven num (den * 2 ^ gridShift num den) with h | h <;>
    rw [gridSteps, h] <;> omega

theorem even_significand_of_steps {num den : Nat} (heven : Even (gridSteps num den)) :
    Even (significand (gridSteps num den * 2 ^ gridShift num den)) := by
  rcases Nat.lt_or_eq_of_le (gridSteps_le num den) with hlt | htop
  · have hlow : 2 ^ 52 ≤ gridSteps num den ∨ gridShift num den = 0 := by
      by_cases hshift : gridShift num den = 0
      · exact .inr hshift
      · exact .inl (two_pow_le_gridSteps hshift)
    rw [significand_mul_two_pow hlow hlt]
    exact heven
  · -- the steps carried over into the next power of two
    have hcarry : 2 ^ 53 * 2 ^ gridShift num den = 2 ^ 52 * 2 ^ (gridShift num den + 1) := by
      rw [Nat.pow_succ, Nat.pow_succ]
      ring
    rw [htop, hcarry, significand_mul_two_pow (.inl le_rfl) (by omega)]
    decide

/-- A count of 53 bits that is off the grid lies below it, and the bottom of the grid is nearer. -/
theorem on_grid_or_farther (num : Nat) {den : Nat} (hden : 0 < den) {u : Nat} (hu : Short u) :
    (∃ t, u = t * 2 ^ gridShift num den) ∨
      |((2 ^ 52 * 2 ^ gridShift num den : Nat) : ℚ) - num / den| < |(u : ℚ) - num / den| := by
  by_cases hshift : gridShift num den = 0
  · exact .inl ⟨u, by rw [hshift, Nat.pow_zero, Nat.mul_one]⟩
  · have hbottom : ((2 ^ 52 * 2 ^ gridShift num den : Nat) : ℚ) ≤ num / den := by
      have hdenq : (0 : ℚ) < den := by exact_mod_cast hden
      rw [le_div_iff₀ hdenq]
      exact_mod_cast (Nat.le_div_iff_mul_le hden).mp (two_pow_le_div hshift)
    rcases Nat.lt_or_ge u (2 ^ 52 * 2 ^ gridShift num den) with hlt | hle
    · right
      have hltq : (u : ℚ) < (2 ^ 52 * 2 ^ gridShift num den : Nat) := by exact_mod_cast hlt
      generalize ((2 ^ 52 * 2 ^ gridShift num den : Nat) : ℚ) = bottom at hbottom hltq ⊢
      rw [abs_of_nonpos (sub_nonpos.mpr hbottom), abs_of_neg (sub_neg.mpr (hltq.trans_le hbottom))]
      exact neg_lt_neg (sub_lt_sub_right hltq _)
    · left
      have hdvd := two_pow_dvd_of_short hu hle
      rw [← Nat.pow_add, Nat.log2_two_pow, Nat.add_sub_cancel_left] at hdvd
      obtain ⟨t, ht⟩ := hdvd
      exact ⟨t, by rw [ht, Nat.mul_comm]⟩

/-- `nearestUnits` finds the nearest count. -/
theorem isNearest_nearestUnits (num : Nat) {den : Nat} (hden : 0 < den) :
    IsNearest ((num : ℚ) / den) (nearestUnits num den) := by
  have hgrid : 0 < den * 2 ^ gridShift num den := Nat.mul_pos hden (Nat.two_pow_pos _)
  have hpow : (0 : ℚ) < 2 ^ gridShift num den := by positivity
  have hsteps : ∀ t : Nat, |((nearestUnits num den : Nat) : ℚ) - num / den| ≤
      |((t * 2 ^ gridShift num den : Nat) : ℚ) - num / den| := by
    intro t
    rw [nearestUnits_eq, abs_grid_sub num hden, abs_grid_sub num hden]
    exact mul_le_mul_of_nonneg_left (abs_roundDiv_sub_le_abs_sub .toEven num hgrid t) hpow.le
  refine ⟨short_mul_two_pow _ (gridSteps_le num den), ?near, ?even⟩
  case near =>
    intro u hu
    rcases on_grid_or_farther num hden hu with ⟨t, rfl⟩ | hfar
    · exact hsteps t
    · exact (hsteps (2 ^ 52)).trans hfar.le
  case even =>
    intro u hu hne htie
    rcases on_grid_or_farther num hden hu with ⟨t, rfl⟩ | hfar
    · rw [nearestUnits_eq, abs_grid_sub num hden, abs_grid_sub num hden] at htie
      have hneSteps : t ≠ gridSteps num den := by
        rintro rfl
        exact hne rfl
      have heven : Even (gridSteps num den) :=
        even_roundDiv_of_tie hgrid hneSteps (mul_left_cancel₀ hpow.ne' htie)
      rw [nearestUnits_eq]
      exact even_significand_of_steps heven
    · exact absurd htie ((hsteps (2 ^ 52)).trans_lt hfar).ne'

theorem exists_isNearest {q : ℚ} (hq : 0 ≤ q) : ∃ n, IsNearest q n := by
  have hnum : ((q.num.toNat : Nat) : ℚ) = q.num := by
    exact_mod_cast Int.toNat_of_nonneg (Rat.num_nonneg.mpr hq)
  have hnearest := isNearest_nearestUnits q.num.toNat q.pos
  rw [hnum, Rat.num_div_den] at hnearest
  exact ⟨_, hnearest⟩

/-- A count nearest to two numbers is nearest to all between them. -/
theorem isNearest_of_between {q p r : ℚ} {n : Nat} (hq : IsNearest q n) (hr : IsNearest r n)
    (hp : 0 ≤ p) (hqp : q ≤ p) (hpr : p ≤ r) : IsNearest p n := by
  obtain ⟨m, hm⟩ := exists_isNearest hp
  obtain rfl : m = n := Nat.le_antisymm (hm.mono hr hpr) (hq.mono hm hqp)
  exact hm

theorem ofUnitRatio_eq_finite {num den : Nat} (negative : Bool) {n : Nat} (hden : 0 < den)
    (hn : Representable n) (hnear : IsNearest ((num : ℚ) / den) n) :
    ofUnitRatio negative num den = .finite negative n hn := by
  obtain rfl := hnear.unique (isNearest_nearestUnits num hden)
  exact dif_pos hn

theorem ofUnitRatio_eq_infinite {num den : Nat} (negative : Bool) {n : Nat} (hden : 0 < den)
    (hn : ¬ Representable n) (hnear : IsNearest ((num : ℚ) / den) n) :
    ofUnitRatio negative num den = .infinite negative := by
  obtain rfl := hnear.unique (isNearest_nearestUnits num hden)
  exact dif_neg hn

/-- A quotient reads as a finite double exactly when the nearest count is one that a double holds. -/
theorem units?_ofUnitRatio {num den : Nat} (negative : Bool) (hden : 0 < den) {n : Nat} :
    (ofUnitRatio negative num den).units? = some n ↔ Representable n ∧ IsNearest ((num : ℚ) / den) n := by
  constructor
  · intro h
    by_cases hrep : Representable (nearestUnits num den)
    · rw [ofUnitRatio, dif_pos hrep, units?, Option.some.injEq] at h
      rw [← h]
      exact ⟨hrep, isNearest_nearestUnits num hden⟩
    · rw [ofUnitRatio, dif_neg hrep] at h
      exact absurd h (Option.some_ne_none n).symm
  · intro h
    obtain ⟨hn, hnear⟩ := h
    rw [ofUnitRatio_eq_finite negative hden hn hnear, units?]

theorem natAbs_units_eq (i : Int) :
    ((i.natAbs * unitsPerOne : Nat) : ℚ) / (1 : Nat) = |(i : ℚ)| * unitsPerOne := by
  rw [Nat.cast_one, div_one, Nat.cast_mul, Nat.cast_natAbs, Int.cast_abs]

theorem ofInt_eq_finite {i : Int} {n : Nat} (hn : Representable n)
    (hnear : IsNearest (|(i : ℚ)| * unitsPerOne) n) : ofInt i = .finite (decide (i < 0)) n hn := by
  rw [← natAbs_units_eq] at hnear
  rw [ofInt, ofRatio, ofUnitRatio_eq_finite _ Nat.one_pos hn hnear]

theorem ofInt_eq_infinite {i : Int} {n : Nat} (hn : ¬ Representable n)
    (hnear : IsNearest (|(i : ℚ)| * unitsPerOne) n) : ofInt i = .infinite (decide (i < 0)) := by
  rw [← natAbs_units_eq] at hnear
  rw [ofInt, ofRatio, ofUnitRatio_eq_infinite _ Nat.one_pos hn hnear]

end Double

end CodecReport
