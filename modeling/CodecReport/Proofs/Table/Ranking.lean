import CodecReport.Proofs.Number.Order
import CodecReport.Proofs.Panel.Warnings

/-!
# Sizes and ratios

Relative to one uncompressed size, the smaller compressed size has the greater ratio. The ratio cells keep this
order, since rounding to hundredths keeps the order of numbers.
-/

namespace CodecReport.Dataset

open Double Decimal

variable {ds ds' : Dataset} {table table' : Table} {i j : Nat} {m m' : Measurement} {d d' : Double}

/-- The ratio cell of a record is the rounded quotient of the two sizes. -/
theorem toHundredths?_of_holds_ratio (htable : ds.results = .ok table) (hm : ds.records[i]? = some m)
    (hcell : table.Holds i "ratio" (.float d)) :
    (ds.uncompressedSize / m.size).toHundredths? = some d := by
  obtain ⟨q, hq, hname, hvalue⟩ := (holds_float_iff htable).mp hcell
  obtain rfl : q = .ratio := by
    simp only [Quantity.all, List.mem_cons, List.not_mem_nil, or_false] at hq
    rcases hq with rfl | rfl | rfl
    · rfl
    · exact absurd hname (by decide)
    · exact absurd hname (by decide)
  rw [List.getElem?_map, hm, Option.map_some] at hvalue
  obtain rfl := Option.some.inj hvalue
  exact toHundredths?_of_cell ((results_eq_ok htable).2 _ hq m (List.mem_of_getElem? hm))

theorem ratio_not_lt {total size size' : Double} (htotal : zero < total) (hsize : zero < size)
    (hlt : size < size') (hd : (total / size).toHundredths? = some d)
    (hd' : (total / size').toHundredths? = some d') :
    ¬ d < d' ∧ (total.isFinite = true ∨ size'.isFinite = true → d' ≤ d) := by
  have hle : total.isFinite = true ∨ size'.isFinite = true → d' ≤ d :=
    fun hfinite => toHundredths?_mono (div_antitone htotal hsize hlt hfinite) hd' hd
  refine ⟨?_, hle⟩
  by_cases hfinite : total.isFinite = true ∨ size'.isFinite = true
  · exact not_lt_of_le (hle hfinite)
  · -- of the two infinities there is no quotient, and nothing is below it
    obtain ⟨htotal, hsize'⟩ := not_or.mp hfinite
    have hnan : total / size' = .nan := by
      cases total <;> cases size' <;> first | rfl | exact absurd rfl htotal | exact absurd rfl hsize'
    rw [hnan] at hd'
    obtain rfl := Option.some.inj hd'
    intro hlt
    cases d <;> cases hlt

/-- Rounding to hundredths keeps the order of numbers and carries the sign along, that of a zero too. What it
gives of a finite number is the double read from a whole number of hundredths that is a nearest one to the
shortest decimal of the number, the one farther from zero of two. So of two records of one positive
uncompressed size, the one of smaller positive compressed size does not have the smaller ratio cell. -/
theorem ratios_ordered :
    (∀ x y r s : Double, x ≤ y → x.toHundredths? = some r → y.toHundredths? = some s → r ≤ s) ∧
    (∀ x : Double, (-x).toHundredths? = x.toHundredths?.map (-·)) ∧
    (∀ negative units hunits r, (Double.finite negative units hunits).toHundredths? = some r →
      ∃ count : Nat, r = toDouble ⟨negative, count, -2⟩ ∧
        |value ⟨negative, count, -2⟩ - (shortest negative units).value| ≤ 1 / 200 ∧
        (|value ⟨negative, count, -2⟩ - (shortest negative units).value| = 1 / 200 →
          |(shortest negative units).value| < |value ⟨negative, count, -2⟩|)) ∧
    ∀ (ds ds' : Dataset) table table', ds.results = .ok table → ds'.results = .ok table' →
      ds.uncompressedSize = ds'.uncompressedSize → zero < ds.uncompressedSize →
      ∀ (i j : Nat) m m', ds.records[i]? = some m → ds'.records[j]? = some m' →
        zero < m.size → m.size < m'.size →
        ∀ d d', table.Holds i "ratio" (.float d) → table'.Holds j "ratio" (.float d') →
          ¬ d < d' ∧ (ds.uncompressedSize.isFinite = true ∨ m'.size.isFinite = true → d' ≤ d) := by
  refine ⟨fun x y r s => toHundredths?_mono, toHundredths?_neg, ?_, ?_⟩
  · intro negative units hunits r hr
    obtain ⟨hread, _⟩ := toHundredths?_eq_some hr
    rw [rounded, negative_shortest] at hread
    have hnearest := rounded_nearest (shortest negative units)
    rw [rounded, negative_shortest] at hnearest
    exact ⟨_, hread, hnearest⟩
  · intro ds ds' table table' htable htable' htotal hpos i j m m' hm hm' hsize hlt d d' hcell hcell'
    have hround' := toHundredths?_of_holds_ratio htable' hm' hcell'
    rw [← htotal] at hround'
    exact ratio_not_lt hpos hsize hlt (toHundredths?_of_holds_ratio htable hm hcell) hround'

/-- One input compressed well and compressed badly. -/
def twoSizes : Dataset where
  name := "d"
  uncompressedSize := Double.ofInt 1000
  records := [⟨"p", "c", Double.ofInt 300, Double.ofInt 1, Double.ofInt 1, none, none⟩,
    ⟨"p", "e", Double.ofInt 600, Double.ofInt 1, Double.ofInt 1, none, none⟩]

theorem ratios_ordered_twoSizes :
    toDouble ⟨false, 101, -2⟩ ≤ toDouble ⟨false, 268, -2⟩ ∧
      (-toDouble ⟨false, 1005, -3⟩).toHundredths? = some (-toDouble ⟨false, 101, -2⟩) ∧
      ∃ table, twoSizes.results = .ok table ∧ table.Holds 0 "ratio" (.float (toDouble ⟨false, 333, -2⟩)) ∧
        table.Holds 1 "ratio" (.float (toDouble ⟨false, 167, -2⟩)) ∧
        toDouble ⟨false, 167, -2⟩ ≤ toDouble ⟨false, 333, -2⟩ := by
  obtain ⟨hmono, hneg, _, hratio⟩ := ratios_ordered
  have hlow : (toDouble ⟨false, 1005, -3⟩).toHundredths? = some (toDouble ⟨false, 101, -2⟩) := by
    decide +kernel
  have hhigh : (toDouble ⟨false, 2675, -3⟩).toHundredths? = some (toDouble ⟨false, 268, -2⟩) := by
    decide +kernel
  obtain ⟨table, htable⟩ : ∃ table, twoSizes.results = .ok table := exists_ok_of_isOk (by decide +kernel)
  have hfirst : table.Holds 0 "ratio" (.float (toDouble ⟨false, 333, -2⟩)) :=
    (holds_float_iff htable).mpr ⟨.ratio, by simp [Quantity.all], rfl, by decide +kernel⟩
  have hsecond : table.Holds 1 "ratio" (.float (toDouble ⟨false, 167, -2⟩)) :=
    (holds_float_iff htable).mpr ⟨.ratio, by simp [Quantity.all], rfl, by decide +kernel⟩
  refine ⟨hmono _ _ _ _ (by decide +kernel) hlow hhigh, ?_, table, htable, hfirst, hsecond, ?_⟩
  · rw [hneg, hlow, Option.map_some]
  · exact (hratio _ _ _ _ htable htable rfl (by decide +kernel) 0 1 _ _ rfl rfl (by decide +kernel)
      (by decide +kernel) _ _ hfirst hsecond).2 (.inl (by decide +kernel))

end CodecReport.Dataset
