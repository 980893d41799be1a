import CodecReport.Proofs.Outcome
import CodecReport.Table.Results

/-!
# The results table, record by record

A column of a results table is what one function gives for the records of the dataset, in their order.
`Dataset.recordColumns` lists these functions beside the columns, and a table that can be computed is the
frame they make, so that its row at some position shows the record at that position and nothing else.
-/

namespace CodecReport

namespace Frame

variable {α : Type}

/-- The frame in which every column tells one thing about each record. -/
def ofRecords (records : List α) (columns : Entries (α → Value)) : Frame :=
  columns.map fun (name, cell) => (name, records.map cell)

theorem rowCount_ofRecords (records : List α) {columns : Entries (α → Value)} (hcolumns : columns ≠ []) :
    rowCount (ofRecords records columns) = records.length := by
  cases columns with
  | nil => exact absurd rfl hcolumns
  | cons column rest => exact List.length_map ..

/-- The row at a position tells everything about the record there. -/
theorem rows_ofRecords (records : List α) {columns : Entries (α → Value)} (hcolumns : columns ≠ []) :
    rows (ofRecords records columns) = records.map fun r => columns.map fun column => column.2 r := by
  rw [rows_eq_map, rowCount_ofRecords records hcolumns]
  apply List.ext_getElem
  · simp
  · intro i hi hi'
    have hlt : i < records.length := by simpa using hi
    simp [row, ofRecords, hlt, Function.comp_def]

theorem keys_ofRecords (records : List α) (columns : Entries (α → Value)) :
    Entries.keys (ofRecords records columns) = columns.keys := by
  simp [Entries.keys, ofRecords]

theorem get?_ofRecords (records : List α) {columns : Entries (α → Value)} (hnodup : columns.keys.Nodup)
    {column : String × (α → Value)} (hcolumn : column ∈ columns) :
    Entries.get? (ofRecords records columns) column.1 = some (records.map column.2) :=
  Entries.get?_of_mem (keys_ofRecords records columns ▸ hnodup) (List.mem_map_of_mem hcolumn)

end Frame

namespace Quantity

variable {q : Quantity} {ds : Dataset}

/-- The quantity of a record in hundredths; where there are none, it is no number. -/
def value (q : Quantity) (ds : Dataset) (m : Measurement) : Double :=
  (q.of ds.uncompressedSize m).toHundredths?.getD .nan

theorem value_eq_of_cell {m : Measurement} {d : Double} (hcell : q.cell ds m = .ok d) :
    q.value ds m = d := by
  rw [cell] at hcell
  rw [value]
  cases hround : (q.of ds.uncompressedSize m).toHundredths? with
  | none =>
    rw [hround] at hcell
    cases hcell
  | some found =>
    rw [hround] at hcell
    exact Except.ok.inj hcell

theorem cells_eq_ok {cells : List Double} (hcells : q.cells ds = .ok cells) :
    cells = ds.records.map (q.value ds) ∧ ∀ m ∈ ds.records, q.cell ds m = .ok (q.value ds m) :=
  mapM_eq_ok_map (fun _ _ => value_eq_of_cell) hcells

end Quantity

namespace Dataset

/-- The columns of a results table, each with the cell that it has for a record. -/
def recordColumns (ds : Dataset) : List (Column × (Measurement → Value)) :=
  [(⟨"plugin", "Plugin", .text⟩, fun m => .text m.plugin),
   (⟨"codec", "Codec", .text⟩, fun m => .text m.codec)]
  ++ Quantity.all.map fun q => (q.column, fun m => .float (q.value ds m))

/-- The cells of a record under the names of their columns. -/
def recordCells (ds : Dataset) : Entries (Measurement → Value) :=
  ds.recordColumns.map fun (column, cell) => (column.name, cell)

variable {ds : Dataset}

theorem recordColumns_fst (ds : Dataset) : ds.recordColumns.map Prod.fst = resultColumns := rfl

theorem recordCells_keys (ds : Dataset) : ds.recordCells.keys = resultColumns.map Column.name := rfl

theorem nodup_recordCells (ds : Dataset) : ds.recordCells.keys.Nodup := by
  rw [recordCells_keys]
  decide

theorem recordCells_ne_nil (ds : Dataset) : ds.recordCells ≠ [] :=
  List.cons_ne_nil _ _

/-- A table that can be computed is made of its records, column by column, and warns of the cells that are
not finite, quantity by quantity. -/
theorem results_eq_ok {table : Table} (htable : ds.results = .ok table) :
    table = {
      dataset := ds.name
      columns := resultColumns
      frame := .ofRecords ds.records ds.recordCells
      warnings := Quantity.all.flatMap fun q =>
        nonFiniteCells ds.name q.column.name (ds.records.map (q.value ds)) } ∧
    ∀ q ∈ Quantity.all, ∀ m ∈ ds.records, q.cell ds m = .ok (q.value ds m) := by
  rw [results] at htable
  obtain ⟨measured, hmeasured, heq⟩ := bind_eq_ok_iff.mp htable
  obtain rfl := Except.ok.inj heq
  have hcells : ∀ (q : Quantity) (entry : String × List Double),
      (do return (q.column.name, ← q.cells ds)) = Except.ok (ε := Fault) entry →
        (q.column.name, ds.records.map (q.value ds)) = entry ∧
          ∀ m ∈ ds.records, q.cell ds m = .ok (q.value ds m) := by
    intro q entry hentry
    obtain ⟨cells, hok, heq⟩ := bind_eq_ok_iff.mp hentry
    obtain ⟨rfl, hcell⟩ := Quantity.cells_eq_ok hok
    exact ⟨Except.ok.inj heq, hcell⟩
  obtain ⟨rfl, hcell⟩ := mapM_eq_ok_map (fun q entry hentry => (hcells q entry hentry).1) hmeasured
  refine ⟨?_, fun q hq => (hcells q _ (hcell q hq)).2⟩
  simp [Frame.ofRecords, recordCells, recordColumns, Quantity.all, Function.comp_def]

/-- The row that a record has in the results table. -/
def row (ds : Dataset) (m : Measurement) : List Value :=
  [.text m.plugin, .text m.codec, .float (Quantity.ratio.value ds m),
    .float (Quantity.compressSpeed.value ds m), .float (Quantity.decompressSpeed.value ds m)]

theorem rows_of_results {table : Table} (htable : ds.results = .ok table) :
    table.rows = ds.records.map ds.row := by
  obtain ⟨rfl, _⟩ := results_eq_ok htable
  exact Frame.rows_ofRecords ds.records ds.recordCells_ne_nil

theorem rowCount_of_results {table : Table} (htable : ds.results = .ok table) :
    table.rowCount = ds.records.length := by
  obtain ⟨rfl, _⟩ := results_eq_ok htable
  exact Frame.rowCount_ofRecords ds.records ds.recordCells_ne_nil

end Dataset

end CodecReport
