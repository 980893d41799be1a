import CodecReport.Proofs.Number.Quotient
import CodecReport.Proofs.Panel.Isolation
import CodecReport.Proofs.Panel.Wording
import CodecReport.Proofs.Table.Display

/-!
# Quantities and warnings

The row of a record holds the quotients of the size of its dataset and what was measured, rounded to
hundredths. A table warns of the cells that are not finite, of each of them once, column by column and from the
first row on, and a panel shows these warnings in this order.
-/

namespace CodecReport

open Double (IsQuotient)

/-- The cell of a row in the column of a name. -/
def Table.Holds (table : Table) (row : Nat) (column : String) (cell : Value) : Prop :=
  ∃ position : Nat, ∃ cells : List Value, table.columnNames[position]? = some column ∧
    table.rows[row]? = some cells ∧ cells[position]? = some cell

/-- A warning comes before another one when its quantity does, or of the same quantity its row. -/
def NonFiniteCell.Before (first second : NonFiniteCell) : Prop :=
  ["ratio", "compress_speed", "decompress_speed"].idxOf first.column <
      ["ratio", "compress_speed", "decompress_speed"].idxOf second.column ∨
    first.column = second.column ∧ first.row < second.row

theorem NonFiniteCell.Before.ne {first second : NonFiniteCell} (h : first.Before second) : first ≠ second := by
  rintro rfl
  rcases h with hcolumn | ⟨_, hrow⟩
  · exact absurd hcolumn (Nat.lt_irrefl _)
  · exact absurd hrow (Nat.lt_irrefl _)

/-! ### Cells that are not finite -/

theorem mem_nonFiniteCells {dataset column : String} {cells : List Double} {w : NonFiniteCell} :
    w ∈ nonFiniteCells dataset column cells ↔
      w.dataset = dataset ∧ w.column = column ∧ cells[w.row]? = some w.value ∧ w.value.isFinite = false := by
  simp only [nonFiniteCells, List.mem_map, List.mem_filter, List.mem_zipIdx_iff_getElem?, Prod.exists,
    Bool.not_eq_true']
  constructor
  · rintro ⟨d, i, ⟨hcell, hfinite⟩, rfl⟩
    exact ⟨rfl, rfl, hcell, hfinite⟩
  · rintro ⟨rfl, rfl, hcell, hfinite⟩
    exact ⟨w.value, w.row, ⟨hcell, hfinite⟩, rfl⟩

/-- The warnings of one column go from the first row on. -/
theorem pairwise_nonFiniteCells (dataset column : String) (cells : List Double) :
    (nonFiniteCells dataset column cells).Pairwise NonFiniteCell.Before := by
  have hrows : cells.zipIdx.Pairwise fun a b => a.2 < b.2 := by
    have hpositions : (cells.zipIdx.map Prod.snd).Pairwise (· < ·) := by
      rw [List.zipIdx_map_snd]
      exact List.pairwise_lt_range' ..
    exact List.pairwise_map.mp hpositions
  rw [nonFiniteCells, List.pairwise_map]
  exact (hrows.filter _).imp fun hlt => .inr ⟨rfl, hlt⟩

namespace Dataset

variable {ds : Dataset} {table : Table}

/-- The ratio of two sizes in hundredths. -/
def IsRatio (total size d : Double) : Prop :=
  ∃ q, IsQuotient total size q ∧ q.toHundredths? = some d

/-- The KiB that are worked off in a second, in hundredths. -/
def IsSpeed (total time d : Double) : Prop :=
  ∃ q s, IsQuotient total time q ∧ IsQuotient q (Double.ofInt 1024) s ∧ s.toHundredths? = some d

/-- The row of a record: its names, the ratio of the sizes, and the two speeds. -/
def Measures (ds : Dataset) (m : Measurement) (row : List Value) : Prop :=
  ∃ ratio compress decompress,
    row = [.text m.plugin, .text m.codec, .float ratio, .float compress, .float decompress] ∧
      IsRatio ds.uncompressedSize m.size ratio ∧ IsSpeed ds.uncompressedSize m.compressCpu compress ∧
      IsSpeed ds.uncompressedSize m.decompressCpu decompress

theorem measures_row (hcells : ∀ q ∈ Quantity.all, ∀ m ∈ ds.records, q.cell ds m = .ok (q.value ds m))
    {m : Measurement} (hm : m ∈ ds.records) : ds.Measures m (ds.row m) := by
  have hround : ∀ q ∈ Quantity.all, (q.of ds.uncompressedSize m).toHundredths? = some (q.value ds m) :=
    fun q hq => toHundredths?_of_cell (hcells q hq m hm)
  refine ⟨_, _, _, rfl, ⟨_, Double.isQuotient_div .., hround .ratio (by simp [Quantity.all])⟩, ?_, ?_⟩
  · exact ⟨_, _, Double.isQuotient_div .., Double.isQuotient_div ..,
      hround .compressSpeed (by simp [Quantity.all])⟩
  · exact ⟨_, _, Double.isQuotient_div .., Double.isQuotient_div ..,
      hround .decompressSpeed (by simp [Quantity.all])⟩

/-- The numbers of a results table are the quantities of its records. -/
theorem holds_float_iff (htable : ds.results = .ok table) {row : Nat} {column : String} {d : Double} :
    table.Holds row column (.float d) ↔
      ∃ q ∈ Quantity.all, column = q.column.name ∧ (ds.records.map (q.value ds))[row]? = some d := by
  have hnames : table.columnNames = ["plugin", "codec", "ratio", "compress_speed", "decompress_speed"] := by
    obtain ⟨rfl, _⟩ := results_eq_ok htable
    rfl
  rw [Table.Holds, hnames, rows_of_results htable]
  constructor
  · rintro ⟨position, cells, hname, hrow, hcell⟩
    rw [List.getElem?_map, Option.map_eq_some_iff] at hrow
    obtain ⟨m, hm, rfl⟩ := hrow
    have hvalue : ∀ q : Quantity, (ds.records.map (q.value ds))[row]? = some (q.value ds m) := by
      intro q
      rw [List.getElem?_map, hm, Option.map_some]
    rcases position with _ | _ | _ | _ | _ | position
    · cases hcell
    · cases hcell
    · cases hname
      cases hcell
      exact ⟨.ratio, by simp [Quantity.all], rfl, hvalue _⟩
    · cases hname
      cases hcell
      exact ⟨.compressSpeed, by simp [Quantity.all], rfl, hvalue _⟩
    · cases hname
      cases hcell
      exact ⟨.decompressSpeed, by simp [Quantity.all], rfl, hvalue _⟩
    · cases hname
  · rintro ⟨q, hq, rfl, hvalue⟩
    rw [List.getElem?_map, Option.map_eq_some_iff] at hvalue
    obtain ⟨m, hm, rfl⟩ := hvalue
    have hrow : (ds.records.map ds.row)[row]? = some (ds.row m) := by
      rw [List.getElem?_map, hm, Option.map_some]
    simp only [Quantity.all, List.mem_cons, List.not_mem_nil, or_false] at hq
    rcases hq with rfl | rfl | rfl
    · exact ⟨2, ds.row m, rfl, hrow, rfl⟩
    · exact ⟨3, ds.row m, rfl, hrow, rfl⟩
    · exact ⟨4, ds.row m, rfl, hrow, rfl⟩

/-- A results table holds the quantities of its records and warns of those that are not finite. -/
theorem mem_warnings_iff (htable : ds.results = .ok table) {w : NonFiniteCell} :
    w ∈ table.warnings ↔ w.dataset = ds.name ∧ table.Holds w.row w.column (.float w.value) ∧
      w.value.isFinite = false := by
  have hwarnings : table.warnings = Quantity.all.flatMap fun q =>
      nonFiniteCells ds.name q.column.name (ds.records.map (q.value ds)) := by
    obtain ⟨rfl, _⟩ := results_eq_ok htable
    rfl
  rw [holds_float_iff htable, hwarnings, List.mem_flatMap]
  simp only [mem_nonFiniteCells]
  constructor
  · rintro ⟨q, hq, hdataset, hcolumn, hcell, hfinite⟩
    exact ⟨hdataset, ⟨q, hq, hcolumn, hcell⟩, hfinite⟩
  · rintro ⟨hdataset, ⟨q, hq, hcolumn, hcell⟩, hfinite⟩
    exact ⟨q, hq, hdataset, hcolumn, hcell, hfinite⟩

theorem pairwise_warnings (htable : ds.results = .ok table) : table.warnings.Pairwise NonFiniteCell.Before := by
  obtain ⟨rfl, _⟩ := results_eq_ok htable
  have horder : Quantity.all.Pairwise fun p q =>
      ["ratio", "compress_speed", "decompress_speed"].idxOf p.column.name <
        ["ratio", "compress_speed", "decompress_speed"].idxOf q.column.name := by
    decide
  rw [List.pairwise_flatMap]
  refine ⟨fun q _ => pairwise_nonFiniteCells .., horder.imp fun hlt first hfirst second hsecond => .inl ?_⟩
  rw [(mem_nonFiniteCells.mp hfirst).2.1, (mem_nonFiniteCells.mp hsecond).2.1]
  exact hlt

theorem sheet_eq_ok {index : Nat} {name : String} {sheet : Sheet}
    (hsheet : Workbook.sheet index name ds = .ok sheet) (htable : ds.results = .ok table) :
    sheet = { dataset := ds, table, id := Workbook.sheetId index name } := by
  obtain ⟨found, hfound, hresult⟩ := bind_eq_ok_iff.mp hsheet
  obtain rfl := Except.ok.inj (htable.symm.trans hfound)
  exact (Except.ok.inj hresult).symm

/-- Where there is a results table, its rows are the quotients of the records in their order, rounded to
hundredths, and it warns exactly of the cells that are not finite, of each once, column by column. Whatever was
done with a board and whichever views fail, the panel of the dataset lists these warnings, if there are any. -/
theorem results_faithful (htable : ds.results = .ok table) :
    List.Forall₂ ds.Measures ds.records table.rows ∧
    (∀ w, w ∈ table.warnings ↔ w.dataset = ds.name ∧ table.Holds w.row w.column (.float w.value) ∧
      w.value.isFinite = false) ∧
    table.warnings.Pairwise NonFiniteCell.Before ∧ table.warnings.Nodup ∧
    ∀ index name sheet, Workbook.sheet index name ds = .ok sheet →
      ∀ book width aspect board, Board.Reached book width aspect board →
        ∀ dataset, board.book.find dataset = .ok sheet → ∀ hidden,
          let pieces := board.panelPieces dataset sheet [] hidden
          (board.after (.render dataset)).html hidden = .ok (Markup.html pieces) ∧
            Board.warningTexts (Markup.scan (Markup.html (Markup.besideFigures pieces))) =
              if table.warnings.isEmpty then [] else [table.warnings.map NonFiniteCell.text] := by
  have hordered := pairwise_warnings htable
  refine ⟨?_, fun w => mem_warnings_iff htable, hordered, hordered.imp NonFiniteCell.Before.ne, ?_⟩
  · rw [rows_of_results htable, List.forall₂_map_right_iff, List.forall₂_same]
    exact fun m hm => measures_row (results_eq_ok htable).2 hm
  · intro index name sheet hsheet book width aspect board hreached dataset hfind hidden pieces
    have hsame := sheet_eq_ok hsheet htable
    have hplain : ∀ c ∈ sheet.id.toList, Text.isIdChar c = true := by
      rw [hsame]
      exact fun c => Workbook.isIdChar_of_mem_sheetId
    have hresults : sheet.dataset.results = .ok sheet.table := by
      rw [hsame]
      exact htable
    obtain rfl : sheet.table = table := by rw [hsame]
    obtain ⟨shown, hrender, _, hframe, hdepicts⟩ := hreached.sound.render_depicts hfind
    have hshown : board.after (.render dataset) = shown := by
      rw [Board.after_render, hrender]
    refine ⟨?_, ?_⟩
    · rw [hshown, hdepicts.html_eq, hframe.panelOf, ← Board.html_panelPieces hplain]
    · rw [Markup.scan_besideFigures]
      exact Board.warningTexts_panelPieces hresults hidden

/-- The dataset with a record that took no time is warned about twice. -/
theorem results_faithful_oneInstant : ∃ table, oneInstant.results = .ok table ∧
    List.Forall₂ oneInstant.Measures oneInstant.records table.rows ∧
    ⟨"d", 0, "compress_speed", .infinite false⟩ ∈ table.warnings ∧
    ⟨"d", 1, "ratio", .infinite false⟩ ∈ table.warnings := by
  obtain ⟨table, htable⟩ := exists_results_oneInstant
  obtain ⟨hrows, hwarnings, _⟩ := results_faithful htable
  refine ⟨table, htable, hrows, (hwarnings _).mpr ⟨rfl, ?_, rfl⟩, (hwarnings _).mpr ⟨rfl, ?_, rfl⟩⟩
  all_goals rw [holds_float_iff htable]
  · exact ⟨.compressSpeed, by simp [Quantity.all], rfl, by decide +kernel⟩
  · exact ⟨.ratio, by simp [Quantity.all], rfl, by decide +kernel⟩

end Dataset

end CodecReport
