import CodecReport.Number.Double
import Mathlib.Algebra.Order.Floor.Semifield
import Mathlib.Data.Rat.Floor
import Mathlib.Tactic.FieldSimp
import Mathlib.Tactic.Linarith
import Mathlib.Tactic.Positivity

/-!
# The rounded quotient as a rational

`roundDiv` rounds a quotient of natural numbers. Read as a rational number, the quotient is within one half
of the result, no integer is nearer to it, and a tie between two integers goes to the even one.
-/

namespace CodecReport

variable {num den : Nat}

theorem roundDiv_eq_or (tie : Tie) (num den : Nat) :
    roundDiv tie num den = num / den ∨ roundDiv tie num den = num / den + 1 := by
  rcases Nat.lt_trichotomy (2 * (num % den)) den with hlt | htie | hgt
  · exact .inl (roundDiv_of_lt tie hlt)
  · cases tie with
    | toEven =>
      rcases Nat.mod_two_eq_zero_or_one (num / den) with hmod | hmod <;> simp [roundDiv, htie, hmod]
    | away => simp [roundDiv, htie]
  · exact .inr (roundDiv_of_gt tie hgt)

/-- The rounded quotient is within one half of the quotient. -/
theorem abs_roundDiv_sub_le (tie : Tie) (num : Nat) (hden : 0 < den) :
    |(roundDiv tie num den : ℚ) - num / den| ≤ 1 / 2 := by
  have hdenq : (0 : ℚ) < den := by exact_mod_cast hden
  have hsplit : (num : ℚ) / den = (num / den : ℕ) + ((num % den : ℕ) : ℚ) / den := by
    have hcast : ((num / den : ℕ) : ℚ) * den + ((num % den : ℕ) : ℚ) = num := by
      exact_mod_cast Nat.div_add_mod' num den
    rw [← hcast]
    field_simp
  have hrest : 0 ≤ ((num % den : ℕ) : ℚ) / den := by positivity
  have hlt : ((num % den : ℕ) : ℚ) / den < 1 := by
    rw [div_lt_one hdenq]
    exact_mod_cast Nat.mod_lt num hden
  have hlow : 2 * (num % den) ≤ den → ((num % den : ℕ) : ℚ) / den ≤ 1 / 2 := by
    intro h
    rw [div_le_div_iff₀ hdenq two_pos]
    have hcast : 2 * ((num % den : ℕ) : ℚ) ≤ den := by exact_mod_cast h
    linarith
  have hhigh : den ≤ 2 * (num % den) → 1 / 2 ≤ ((num % den : ℕ) : ℚ) / den := by
    intro h
    rw [div_le_div_iff₀ two_pos hdenq]
    have hcast : (den : ℚ) ≤ 2 * ((num % den : ℕ) : ℚ) := by exact_mod_cast h
    linarith
  rw [hsplit]
  rcases roundDiv_eq_or tie num den with hfloor | hceil
  · have hhalf : 2 * (num % den) ≤ den := by
      by_contra hgt
      rw [roundDiv_of_gt tie (by omega)] at hfloor
      omega
    rw [hfloor, abs_le]
    constructor <;> linarith [hlow hhalf]
  · have hhalf : den ≤ 2 * (num % den) := by
      by_contra hlt
      rw [roundDiv_of_lt tie (by omega)] at hceil
      omega
    rw [hceil, abs_le]
    push_cast
    constructor <;> linarith [hhigh hhalf]

/-- No integer is nearer to the quotient than the rounded quotient. -/
theorem abs_roundDiv_sub_le_abs_sub (tie : Tie) (num : Nat) (hden : 0 < den) (t : Nat) :
    |(roundDiv tie num den : ℚ) - num / den| ≤ |(t : ℚ) - num / den| := by
  have hhalf := abs_roundDiv_sub_le tie num hden
  by_cases heq : t = roundDiv tie num den
  · rw [heq]
  · have hone : (1 : ℚ) ≤ |(t : ℚ) - roundDiv tie num den| := by
      have hint : (1 : ℤ) ≤ |(t : ℤ) - (roundDiv tie num den : ℤ)| :=
        Int.one_le_abs (sub_ne_zero.mpr (by exact_mod_cast heq))
      exact_mod_cast hint
    have htriangle := abs_sub_le (t : ℚ) (num / den) (roundDiv tie num den)
    rw [abs_sub_comm ((num : ℚ) / den)] at htriangle
    linarith

/-- A quotient equally near to two integers is rounded to the even one. -/
theorem even_roundDiv_of_tie (hden : 0 < den) {t : Nat} (hne : t ≠ roundDiv .toEven num den)
    (htie : |(t : ℚ) - num / den| = |(roundDiv .toEven num den : ℚ) - num / den|) :
    Even (roundDiv .toEven num den) := by
  have hdenq : (0 : ℚ) < den := by exact_mod_cast hden
  -- the two integers lie on either side of the quotient, which is therefore half way
  have hsum : (t : ℚ) + roundDiv .toEven num den = 2 * (num / den) := by
    rcases abs_eq_abs.mp htie with h | h
    · exact absurd (by exact_mod_cast (sub_left_injective h)) hne
    · linarith
  have htwice : (t + roundDiv .toEven num den) * den = 2 * num := by
    have hcast : ((t : ℚ) + roundDiv .toEven num den) * den = 2 * num := by
      rw [hsum]
      field_simp
    exact_mod_cast hcast
  have hhalf : 2 * (num % den) = den := by
    rcases Nat.even_or_odd' (t + roundDiv .toEven num den) with ⟨j, hj | hj⟩
    · have hwhole : num = j * den := by
        rw [hj, Nat.mul_assoc] at htwice
        omega
      rw [hwhole, roundDiv_mul_right .toEven j hden] at hj hne
      omega
    · rw [hj, Nat.add_mul, Nat.mul_assoc] at htwice
      obtain ⟨m, hm⟩ : ∃ m, num = m + j * den := ⟨num - j * den, by omega⟩
      rw [hm, Nat.add_mul_mod_self_right, Nat.mod_eq_of_lt] <;> omega
  have hbelow : roundDiv .toEven num den = num / den + num / den % 2 := by
    simp [roundDiv, hhalf]
  rw [hbelow, Nat.even_iff]
  omega

end CodecReport
