import CodecReport.Proofs.Number.Display
import CodecReport.Proofs.Table.Alignment

/-!
# Cells on display

The results table shows every number with two places, while its charts and its report carry the fewest
digits. Either text reads back as the number that the table holds, so none of them shows a reader another
number than the others do.
-/

namespace CodecReport

namespace Double

/-- Everything that is written of a number in a results table, its charts and its report reads back as that
number. -/
structure ShownExactly (d : Double) : Prop where
  shown : Visual.cellText .number (.float d) = .ok d.fixed2
  reads : ofText? d.fixed2 = some d
  places : ∀ negative units h, d = finite negative units h → ∃ whole cents, whole ≠ [] ∧
    cents.length = 2 ∧ (∀ c ∈ whole ++ cents, Text.isAsciiDigit c = true) ∧
    d.fixed2 = String.ofList (signed negative (whole ++ '.' :: cents))
  word : d.isFinite = false → d.fixed2 = d.nonFiniteText
  charted : Value.coordinate (.float d) = .ok (if d.isFinite then some d else none)
  carried : ofText? d.text = some d

theorem shownExactly_of_hundredths {x d : Double} (hd : x.toHundredths? = some d) : ShownExactly d where
  shown := rfl
  reads := ofText?_fixed2_of_hundredths hd
  places := by
    rintro negative units hunits rfl
    refine ⟨decimalDigits (shownHundredths units / 100), centDigits (shownHundredths units),
      decimalDigits_ne_nil _, length_centDigits _, ?_, fixed2_finite hunits⟩
    intro c hc
    rcases List.mem_append.mp hc with hmem | hmem
    · exact isAsciiDigit_of_mem_decimalDigits c hmem
    · exact isAsciiDigit_of_mem_centDigits _ c hmem
  word := by
    intro hinfinite
    cases d with
    | nan => rfl
    | infinite negative => rfl
    | finite => cases hinfinite
  charted := rfl
  carried := ofText?_text d

end Double

namespace Dataset

variable {ds : Dataset} {table : Table}

theorem toHundredths?_of_cell {q : Quantity} {m : Measurement} {d : Double} (hcell : q.cell ds m = .ok d) :
    (q.of ds.uncompressedSize m).toHundredths? = some d := by
  rw [Quantity.cell] at hcell
  split at hcell
  · rename_i found hfound
    rw [hfound, Except.ok.inj hcell]
  · cases hcell

/-- The numbers of a results table are shown, charted and reported without loss. -/
theorem results_shownExactly (htable : ds.results = .ok table) :
    (∀ column ∈ table.columns, column.kind = .number → ∃ q ∈ Quantity.all, column = q.column ∧
      table.frame.get? column.name = some (ds.records.map fun m => .float (q.value ds m)) ∧
      (∀ m ∈ ds.records, (q.value ds m).ShownExactly) ∧
      ∀ id, (column.name, .numbers (ds.records.map (q.value ds))) ∈
        Report.ofSheet { dataset := ds, table, id }) ∧
    ∀ view ∈ table.views, view.form = .table → ∀ container selected,
      Visual.tableHtml container view selected = .ok (ds.tableElement container selected) := by
  constructor
  · intro column hcolumn hnumber
    have hcolumns : table.columns = ds.recordColumns.map Prod.fst := by
      obtain ⟨rfl, -⟩ := results_eq_ok htable
      exact (recordColumns_fst ds).symm
    rw [hcolumns] at hcolumn
    obtain ⟨found, hfound, rfl⟩ := List.mem_map.mp hcolumn
    have hcells := cells_of_mem htable hfound
    obtain ⟨q, hq, rfl⟩ : ∃ q ∈ Quantity.all, q.recordColumn ds = found := by
      rcases List.mem_append.mp hfound with htext | hmeasured
      · simp only [List.mem_cons, List.not_mem_nil, or_false] at htext
        rcases htext with rfl | rfl <;> cases hnumber
      · exact List.mem_map.mp hmeasured
    refine ⟨q, hq, rfl, hcells, ?_, ?_⟩
    · intro m hm
      exact Double.shownExactly_of_hundredths (toHundredths?_of_cell ((results_eq_ok htable).2 q hq m hm))
    · intro id
      rw [ofSheet_eq htable]
      exact List.mem_append_left _ (List.mem_append_right _ (List.mem_map_of_mem hq))
  · intro view hview hform
    exact (shows_of_views htable view hview).element hform

theorem results_shownExactly_oneInstant : ∃ table, oneInstant.results = .ok table ∧
    ∀ column ∈ table.columns, column.kind = .number → ∃ q ∈ Quantity.all, column = q.column ∧
      ∀ m ∈ oneInstant.records, (q.value oneInstant m).ShownExactly := by
  obtain ⟨table, htable⟩ := exists_results_oneInstant
  refine ⟨table, htable, ?_⟩
  intro column hcolumn hnumber
  obtain ⟨q, hq, heq, _, hshown, _⟩ := (results_shownExactly htable).1 column hcolumn hnumber
  exact ⟨q, hq, heq, hshown⟩

end Dataset

end CodecReport
