import CodecReport.Proofs.Markup.Elements
import CodecReport.Proofs.Page.Pieces
import CodecReport.Proofs.Table.Alignment
import CodecReport.Proofs.Table.Projection

/-!
# What a panel says

The elements of a panel that hold words: the heading, the list of warnings, and the rows of the results table
with one cell for each thing that is told of a record. What the words are has no part in which elements there
are: two datasets with the same numbers have panels of one shape, whatever else their records hold.
-/

namespace CodecReport

open Markup

/-! ### The results table -/

namespace Dataset

variable {ds : Dataset} {view : View}

/-- What the results table says of a record, before it is escaped. -/
def rowWords (ds : Dataset) (m : Measurement) : List String :=
  [m.plugin, m.codec] ++ Quantity.all.map fun q => (q.value ds m).fixed2

def rowPieces (ds : Dataset) (selected : List Nat) (index : Nat) (m : Measurement) : List Piece :=
  element .tr
    ((.dataRow, toString index) :: if selected.contains index then [(.cssClass, "selected")] else [])
    (items .td (ds.rowWords m))

def bodyPieces (ds : Dataset) (selected : List Nat) : List Piece :=
  ds.records.zipIdx.flatMap fun (m, index) => ds.rowPieces selected index m

/-- The pieces of the results table, with one row for every record. -/
def tablePieces (ds : Dataset) (container : String) (selected : List Nat) : List Piece :=
  element .table [(.id, container), (.cssClass, "results-table")]
    (element .thead [] (element .tr [] (Visual.headPieces resultColumns))
      ++ element .tbody [] (ds.bodyPieces selected))

theorem rowPieces_row (ds : Dataset) (selected : List Nat) (index : Nat) (m : Measurement) :
    Visual.rowPieces resultColumns selected index (ds.row m) = .ok (ds.rowPieces selected index m) := rfl

theorem mapM_rowPieces (ds : Dataset) (selected : List Nat) :
    ((Frame.rows (.ofRecords ds.records ds.recordCells)).zipIdx.mapM fun (row, index) =>
      Visual.rowPieces resultColumns selected index row) =
      .ok (ds.records.zipIdx.map fun (m, index) => ds.rowPieces selected index m) := by
  rw [Frame.rows_ofRecords ds.records ds.recordCells_ne_nil, mapM_eq_ok_iff, List.zipIdx_map,
    List.forall₂_map_left_iff, List.forall₂_map_right_iff, List.forall₂_same]
  intro entry _
  exact rowPieces_row ds selected entry.2 entry.1

theorem TableView.pieces (h : ds.TableView view) (htable : ds.results = .ok view.table) (container : String)
    (selected : List Nat) :
    Visual.tablePieces container view selected = .ok (ds.tablePieces container selected) := by
  have hcolumns : view.columns = .ok resultColumns := by
    rw [View.columns, View.resolveAll, resolveAll_of_picked htable h.pickable.picked, h.picked]
  have hframe : view.frame = .ok (.ofRecords ds.records ds.recordCells) := by
    rw [frame_of_pickable htable rfl h.pickable, h.cells]
  rw [Visual.tablePieces, hcolumns, hframe]
  refine bind_eq_ok_iff.mpr ⟨_, rfl, bind_eq_ok_iff.mpr ⟨_, rfl,
    bind_eq_ok_iff.mpr ⟨_, mapM_rowPieces ds selected, ?_⟩⟩⟩
  rw [pure_eq_ok, ← List.flatMap_def]
  rfl

theorem tableView_on (ds : Dataset) (table : Table) {plan : ViewPlan} (hplan : plan ∈ ViewPlan.standard)
    (hform : plan.form = .table) : ds.TableView (plan.on table) := by
  have hpickable := ds.pickable_standard hplan
  simp only [ViewPlan.standard, List.mem_cons, List.not_mem_nil, or_false] at hplan
  rcases hplan with rfl | rfl | rfl | rfl | rfl | rfl
  · exact ⟨hpickable, rfl, rfl⟩
  all_goals cases hform

/-- Whether a chart can be drawn does not hang on what it shows. -/
theorem failAlike_figure {other : Dataset} {table otherTable : Table} (htable : ds.results = .ok table)
    (hother : other.results = .ok otherTable) {plan : ViewPlan} (hplan : plan ∈ ViewPlan.standard)
    (options : ChartOptions) (selected otherSelected : List Nat) (hchart : plan.form ≠ .table) :
    FailAlike (Visual.figure plan.form (plan.on table) options selected)
      (Visual.figure plan.form (plan.on otherTable) options otherSelected) := by
  have hshows := shows_of_views htable (plan.on table) (List.mem_map_of_mem hplan)
  have hothers := shows_of_views hother (plan.on otherTable) (List.mem_map_of_mem hplan)
  rcases hshows.form with hform | hform | hform
  · exact absurd hform hchart
  · obtain ⟨_, _, _, hbars⟩ := hshows.bars hform
    obtain ⟨_, _, _, hotherBars⟩ := hothers.bars hform
    rw [show plan.form = .bar from hform, hbars, hotherBars]
    exact Figure.failAlike_withLayout ..
  · obtain ⟨_, _, _, _, _, hpoints⟩ := hshows.points hform
    obtain ⟨_, _, _, _, _, hotherPoints⟩ := hothers.points hform
    obtain ⟨_, hfigure⟩ := hpoints options selected
    obtain ⟨_, hotherFigure⟩ := hotherPoints options otherSelected
    rw [show plan.form = .scatter from hform, hfigure, hotherFigure]
    exact Figure.failAlike_withLayout ..

/-! ### Reading the table -/

theorem speaks_rowPieces (ds : Dataset) (selected : List Nat) (index : Nat) (m : Measurement) :
    Speaks [.tr, .td, .dataRow, .cssClass] (ds.rowPieces selected index m) := by
  refine .element List.mem_cons_self ?_ ?_
  · intro entry hentry
    rcases List.mem_cons.mp hentry with rfl | hclass
    · exact .tail _ (.tail _ (.head _))
    · split at hclass
      next =>
        obtain rfl := List.mem_singleton.mp hclass
        decide
      next => exact absurd hclass List.not_mem_nil
  · exact (speaks_items .td _).mono (by decide)

theorem speaks_bodyPieces (ds : Dataset) (selected : List Nat) :
    Speaks [.tr, .td, .dataRow, .cssClass] (ds.bodyPieces selected) :=
  .flatMap fun entry _ => ds.speaks_rowPieces selected entry.2 entry.1

/-- The cells of the body of a table, row by row. -/
def cellTexts (body : List Token) : List (List String) :=
  (elements "tr" body).map fun row => texts "td" row.content

/-- The rows of the table say of the records what there is to say, one record after the other. -/
theorem cellTexts_bodyPieces (ds : Dataset) (selected : List Nat) :
    cellTexts (tokens (ds.bodyPieces selected)) = ds.records.map ds.rowWords := by
  have hrow : ∀ entry ∈ ds.records.zipIdx, Yields .tr (ds.rowPieces selected entry.2 entry.1)
      [elementOf .tr
        ((.dataRow, toString entry.2) :: if selected.contains entry.2 then [(.cssClass, "selected")] else [])
        (items .td (ds.rowWords entry.1))] := by
    intro entry _
    exact .element ((speaks_items .td _).not_mem (by decide))
  have hrows := (Yields.flatMap hrow).elements_eq
  rw [cellTexts, show "tr" = Name.tr.text from rfl, bodyPieces, hrows, ← List.map_eq_flatMap, List.map_map]
  have hcells : (ds.records.zipIdx.map fun entry => texts "td" (tokens (items .td (ds.rowWords entry.1)))) =
      ds.records.zipIdx.map fun entry => ds.rowWords entry.1 := by
    apply List.map_congr_left
    intro entry _
    exact texts_items .td _
  have hrecords : ds.records.map ds.rowWords = ds.records.zipIdx.map fun entry => ds.rowWords entry.1 := by
    conv_lhs => rw [← List.zipIdx_map_fst 0 ds.records, List.map_map]
    rfl
  rw [hrecords, ← hcells]
  rfl

/-- The names of the elements and attributes of a results table. -/
def tableWords : List Name :=
  [.table, .thead, .tbody, .tr, .th, .td, .id, .cssClass, .dataRow]

theorem speaks_tablePieces (ds : Dataset) (container : String) (selected : List Nat) :
    Speaks tableWords (ds.tablePieces container selected) := by
  have hnone : ∀ entry ∈ ([] : List (Name × String)), entry.1 ∈ tableWords :=
    fun _ hentry => absurd hentry List.not_mem_nil
  have hhead : Speaks tableWords (Visual.headPieces resultColumns) :=
    .flatMap fun column _ => .element (by decide) hnone (.text column.label .nil)
  have hbody : Speaks tableWords (ds.bodyPieces selected) := (ds.speaks_bodyPieces selected).mono (by decide)
  refine .element (by decide) (by simp [tableWords]) (.append ?_ (.element (by decide) hnone hbody))
  exact .element (by decide) hnone (.element (by decide) hnone hhead)

/-- A table has one body, that of its records. -/
theorem yields_tablePieces (ds : Dataset) (container : String) (selected : List Nat) :
    Yields .tbody (ds.tablePieces container selected) [elementOf .tbody [] (ds.bodyPieces selected)] := by
  apply Yields.around (by decide)
  have hhead : Name.tbody ∉ words (element .thead [] (element .tr [] (Visual.headPieces resultColumns))) := by
    decide
  exact (Yields.of_not_mem hhead).append (.element ((ds.speaks_bodyPieces selected).not_mem (by decide)))

end Dataset

/-! ### Same numbers -/

/-- Two measurements that may differ in their names and wall-clock times only. -/
structure Measurement.SameNumbers (m other : Measurement) : Prop where
  size : other.size = m.size
  compressCpu : other.compressCpu = m.compressCpu
  decompressCpu : other.decompressCpu = m.decompressCpu

/-- Two datasets whose texts may differ, and nothing else that a panel shows. -/
structure Dataset.SameNumbers (ds other : Dataset) : Prop where
  uncompressedSize : other.uncompressedSize = ds.uncompressedSize
  records : List.Forall₂ Measurement.SameNumbers ds.records other.records

namespace Dataset.SameNumbers

variable {ds other : Dataset} {q : Quantity}

theorem quantities_eq (h : ds.SameNumbers other) (hq : q ∈ Quantity.all) :
    other.records.map (q.of other.uncompressedSize) = ds.records.map (q.of ds.uncompressedSize) := by
  have hone : ∀ m n : Measurement, m.SameNumbers n →
      q.of ds.uncompressedSize m = q.of other.uncompressedSize n := by
    intro m n hsame
    simp only [Quantity.all, List.mem_cons, List.not_mem_nil, or_false] at hq
    rcases hq with rfl | rfl | rfl
    all_goals
      simp only [Quantity.ratio, Quantity.compressSpeed, Quantity.decompressSpeed, h.uncompressedSize, hsame.size,
        hsame.compressCpu, hsame.decompressCpu]
  rw [eq_comm, ← List.forall₂_eq_eq_eq, List.forall₂_map_left_iff, List.forall₂_map_right_iff]
  exact h.records.imp hone

theorem values_eq (h : ds.SameNumbers other) (hq : q ∈ Quantity.all) :
    other.records.map (q.value other) = ds.records.map (q.value ds) := by
  have hvalues : ∀ one : Dataset, one.records.map (q.value one) =
      (one.records.map (q.of one.uncompressedSize)).map fun d => d.toHundredths?.getD .nan := by
    intro one
    rw [List.map_map]
    rfl
  rw [hvalues, hvalues, h.quantities_eq hq]

theorem exists_results (h : ds.SameNumbers other) {table : Table} (htable : ds.results = .ok table) :
    ∃ found, other.results = .ok found := by
  have hwithin : ds.WithinPrecision := exists_results_iff.mp ⟨table, htable⟩
  apply exists_results_iff.mpr
  intro q hq n hn units hunits
  have hmem : q.of other.uncompressedSize n ∈ ds.records.map (q.of ds.uncompressedSize) := by
    rw [← h.quantities_eq hq]
    exact List.mem_map_of_mem hn
  obtain ⟨m, hm, hsame⟩ := List.mem_map.mp hmem
  rw [← hsame] at hunits
  exact hwithin q hq m hm units hunits

/-- The tables of the same numbers warn of as many cells. -/
theorem length_warnings (h : ds.SameNumbers other) {table otherTable : Table} (htable : ds.results = .ok table)
    (hother : other.results = .ok otherTable) : otherTable.warnings.length = table.warnings.length := by
  obtain ⟨rfl, _⟩ := results_eq_ok htable
  obtain ⟨rfl, _⟩ := results_eq_ok hother
  have hcells : ∀ q ∈ Quantity.all,
      (nonFiniteCells other.name q.column.name (other.records.map (q.value other))).length =
      (nonFiniteCells ds.name q.column.name (ds.records.map (q.value ds))).length := by
    intro q hq
    rw [h.values_eq hq, nonFiniteCells, nonFiniteCells, List.length_map, List.length_map]
  rw [List.length_flatMap, List.length_flatMap, List.map_congr_left hcells]

theorem shape_tablePieces (h : ds.SameNumbers other) (container otherContainer : String)
    (selected otherSelected : List Nat) :
    shape (other.tablePieces otherContainer otherSelected) = shape (ds.tablePieces container selected) := by
  have hrow : ∀ (one : Dataset) (rows : List Nat), one.bodyPieces rows =
      one.records.zipIdx.flatMap fun entry => one.rowPieces rows entry.2 entry.1 := fun _ _ => rfl
  have hbody : shape (other.bodyPieces otherSelected) = shape (ds.bodyPieces selected) := by
    rw [hrow, hrow]
    apply shape_flatMap_of_forall₂
    rw [List.forall₂_iff_get]
    refine ⟨by simp [h.records.length_eq], fun index hindex hother => ?_⟩
    have hcells : ∀ m n, shape (items .td (other.rowWords m)) = shape (items .td (ds.rowWords n)) :=
      fun m n => shape_items_congr .td rfl
    rw [rowPieces, rowPieces, shape_element, shape_element, hcells]
  simp only [tablePieces, shape_element, shape_append, hbody]

end Dataset.SameNumbers

/-! ### Panels -/

namespace Board

section Slots

variable {board : Board} {sheet : Sheet} {dataset : String} {selection : Selection} {view : View}

theorem pieces_of_working (hworking : ∀ visual, board.broken visual = none) (visual : Visual)
    (selection : Selection) : board.pieces visual selection = visual.pieces selection := by
  rw [pieces, hworking]

theorem pieces_of_table (htable : sheet.dataset.results = .ok sheet.table) {plan : ViewPlan}
    (hplan : plan ∈ ViewPlan.standard) (hform : plan.form = .table) (selection : Selection) :
    (board.visualOf sheet (plan.on sheet.table)).pieces selection =
      .ok (sheet.dataset.tablePieces (sheet.id ++ "-" ++ plan.id) (selection.rows sheet.table.rowCount)) := by
  have hpieces := (sheet.dataset.tableView_on sheet.table hplan hform).pieces htable
    (sheet.id ++ "-" ++ plan.id) (selection.rows sheet.table.rowCount)
  have hvisual : (board.visualOf sheet (plan.on sheet.table)).form = .table := hform
  rw [Visual.pieces, hvisual]
  exact hpieces

theorem pieces_of_chart (hform : view.form ≠ .table) (selection : Selection) :
    (board.visualOf sheet view).pieces selection = Visual.figurePieces (sheet.id ++ "-" ++ view.id) <$>
      Visual.figure view.form view (board.visualOf sheet view).options (selection.rows view.table.rowCount) := by
  have hvisual : (board.visualOf sheet view).form = view.form := rfl
  rw [Visual.pieces, hvisual]
  cases hcase : view.form with
  | table => exact absurd hcase hform
  | _ => exact (map_eq_pure_bind ..).symm

theorem html_of_chart (hform : view.form ≠ .table) (selection : Selection) :
    (board.visualOf sheet view).html selection = do
      return (← Visual.figure view.form view (board.visualOf sheet view).options
        (selection.rows view.table.rowCount)).html (sheet.id ++ "-" ++ view.id) := by
  have hvisual : (board.visualOf sheet view).form = view.form := rfl
  rw [Visual.html, hvisual]
  cases hcase : view.form with
  | table => exact absurd hcase hform
  | _ => rfl

/-- What stands in the slot of a view: the results table, a chart, or why there is neither. -/
theorem bodyPieces_cases (htable : sheet.dataset.results = .ok sheet.table) (hview : view ∈ sheet.table.views) :
    (view.form = .table ∧ board.bodyPieces sheet dataset selection view =
      sheet.dataset.tablePieces (sheet.id ++ "-" ++ view.id) (selection.rows sheet.table.rowCount)) ∨
    (∃ figure, board.bodyPieces sheet dataset selection view =
      Visual.figurePieces (sheet.id ++ "-" ++ view.id) figure) ∨
    ∃ text, board.bodyPieces sheet dataset selection view =
      element .p [(.cssClass, "render-error")] [.text text] := by
  cases hpieces : board.pieces (board.visualOf sheet view) selection with
  | error fault => exact .inr (.inr ⟨_, by rw [bodyPieces, hpieces]⟩)
  | ok drawn =>
    have hbody : board.bodyPieces sheet dataset selection view = drawn := by rw [bodyPieces, hpieces]
    rw [pieces] at hpieces
    split at hpieces
    next => cases hpieces
    next =>
      by_cases hform : view.form = .table
      · obtain ⟨plan, hplan, rfl⟩ := List.mem_map.mp hview
        rw [pieces_of_table htable hplan hform] at hpieces
        cases hpieces
        exact .inl ⟨hform, hbody⟩
      · rw [pieces_of_chart hform] at hpieces
        obtain ⟨figure, _, rfl⟩ := map_eq_ok_iff.mp hpieces
        exact .inr (.inl ⟨figure, hbody⟩)

/-- The names of the elements and attributes of a slot. -/
def slotWords : List Name :=
  [.div, .p, .dataView] ++ Dataset.tableWords

theorem speaks_slotPieces (htable : sheet.dataset.results = .ok sheet.table) (hview : view ∈ sheet.table.views) :
    Speaks slotWords (board.slotPieces sheet dataset selection view) := by
  refine .element (by decide) (by simp [slotWords, Dataset.tableWords]) ?_
  rcases board.bodyPieces_cases htable hview with ⟨_, hbody⟩ | ⟨figure, hbody⟩ | ⟨text, hbody⟩
  · rw [hbody]
    exact Speaks.mono (sheet.dataset.speaks_tablePieces _ _) (by decide)
  · rw [hbody]
    exact .element (by decide) (by simp [slotWords, Dataset.tableWords]) (fun _ hword => absurd hword List.not_mem_nil)
  · rw [hbody]
    exact .element (by decide) (by simp [slotWords, Dataset.tableWords]) (.text _ .nil)

/-- The slot of the results table has the body of the table, and the slot of a chart has none. -/
theorem yields_slotPieces (htable : sheet.dataset.results = .ok sheet.table)
    (hworking : ∀ visual, board.broken visual = none) {plan : ViewPlan} (hplan : plan ∈ ViewPlan.standard) :
    Yields .tbody (board.slotPieces sheet dataset selection (plan.on sheet.table))
      (if plan.form = .table then
        [elementOf .tbody [] (sheet.dataset.bodyPieces (selection.rows sheet.table.rowCount))] else []) := by
  apply Yields.around (by decide)
  rw [bodyPieces, pieces_of_working hworking]
  by_cases hform : plan.form = .table
  · rw [if_pos hform, pieces_of_table htable hplan hform]
    exact Dataset.yields_tablePieces _ _ _
  · rw [if_neg hform, pieces_of_chart hform]
    cases Visual.figure (plan.on sheet.table).form (plan.on sheet.table) _ _ with
    | error fault => exact .of_not_mem (by simp [Functor.map, Except.map, Piece.words])
    | ok figure => exact .of_not_mem (by simp [Functor.map, Except.map, Piece.words, Visual.figurePieces])

end Slots

/-! ### Elements of panels -/

section Elements

variable {board : Board} {sheet : Sheet} {dataset : String} {selection : Selection}

/-- The list of warnings, as it is read; none if there is no warning. -/
def warningLists (warnings : List NonFiniteCell) : List Element :=
  if warnings.isEmpty then []
  else [elementOf .ul [(.cssClass, "projection-warnings")] (items .li (warnings.map NonFiniteCell.text))]

theorem warningPieces_eq (warnings : List NonFiniteCell) : Panel.warningPieces warnings =
    if warnings.isEmpty then []
    else element .ul [(.cssClass, "projection-warnings")] (items .li (warnings.map NonFiniteCell.text)) := by
  rw [Panel.warningPieces, items, List.flatMap_map]

theorem speaks_headingPieces (dataset : String) : Speaks [.h2] (Panel.headingPieces dataset) :=
  .element (by decide) (fun _ hentry => absurd hentry List.not_mem_nil) (.text _ (.text _ .nil))

theorem speaks_warningPieces (warnings : List NonFiniteCell) :
    Speaks [.ul, .li, .cssClass] (Panel.warningPieces warnings) := by
  rw [warningPieces_eq]
  split
  next => exact .nil
  next => exact .element (by decide) (by simp) ((speaks_items .li _).mono (by decide))

/-- An element of a panel is found in its heading, its warnings or one of its slots. -/
theorem yields_panelPieces {name : Name} (hname : .div ≠ name) {inHeading inWarnings : List Element}
    {inSlot : ViewPlan → List Element} (hheading : Yields name (Panel.headingPieces dataset) inHeading)
    (hwarnings : Yields name (Panel.warningPieces sheet.table.warnings) inWarnings)
    (hslots : ∀ plan ∈ ViewPlan.standard,
      Yields name (board.slotPieces sheet dataset selection (plan.on sheet.table)) (inSlot plan)) (hidden : Bool) :
    Yields name (board.panelPieces dataset sheet selection hidden)
      (inHeading ++ inWarnings ++ ViewPlan.standard.flatMap inSlot) := by
  apply Yields.around hname
  rw [Table.views, List.flatMap_map]
  exact (hheading.append hwarnings).append (.flatMap hslots)

variable (htable : sheet.dataset.results = .ok sheet.table) (hidden : Bool)
include htable

theorem speaks_slotPieces_on {plan : ViewPlan} (hplan : plan ∈ ViewPlan.standard) :
    Speaks slotWords (board.slotPieces sheet dataset selection (plan.on sheet.table)) :=
  speaks_slotPieces htable (List.mem_map_of_mem hplan)

theorem yields_heading : Yields .h2 (board.panelPieces dataset sheet selection hidden)
    [elementOf .h2 [] [.text dataset, .text " Results"]] := by
  have hheading : Yields .h2 (Panel.headingPieces dataset)
      [elementOf .h2 [] [.text dataset, .text " Results"]] := .element (by simp [Piece.words])
  exact yields_panelPieces (by decide) hheading (.of_not_mem ((speaks_warningPieces _).not_mem (by decide)))
    (fun plan hplan => .of_not_mem ((speaks_slotPieces_on htable hplan).not_mem (by decide))) hidden

theorem yields_warnings : Yields .ul (board.panelPieces dataset sheet selection hidden)
    (warningLists sheet.table.warnings) := by
  have hwarnings : Yields .ul (Panel.warningPieces sheet.table.warnings) (warningLists sheet.table.warnings) := by
    rw [warningPieces_eq, warningLists]
    split
    next => exact .nil
    next => exact .element ((speaks_items .li _).not_mem (by decide))
  have hheading := (speaks_headingPieces dataset).not_mem (by decide : Name.ul ∉ [Name.h2])
  have hslots : ∀ plan ∈ ViewPlan.standard,
      Yields .ul (board.slotPieces sheet dataset selection (plan.on sheet.table)) [] :=
    fun plan hplan => .of_not_mem ((speaks_slotPieces_on htable hplan).not_mem (by decide))
  have hpanel := yields_panelPieces (by decide) (.of_not_mem hheading) hwarnings hslots
  simpa [ViewPlan.standard] using hpanel hidden

theorem yields_rows (hworking : ∀ visual, board.broken visual = none) :
    Yields .tbody (board.panelPieces dataset sheet selection hidden)
      [elementOf .tbody [] (sheet.dataset.bodyPieces (selection.rows sheet.table.rowCount))] :=
  yields_panelPieces (by decide) (.of_not_mem ((speaks_headingPieces dataset).not_mem (by decide)))
    (.of_not_mem ((speaks_warningPieces _).not_mem (by decide)))
    (fun _ hplan => yields_slotPieces htable hworking hplan) hidden

/-- The names of the elements and attributes of a panel. -/
def panelWords : List Name :=
  [.h2, .ul, .li, .dataDataset, .style] ++ slotWords

theorem speaks_panelPieces : Speaks panelWords (board.panelPieces dataset sheet selection hidden) := by
  refine .element (by decide) ?_ (.append (.append ?_ ?_) ?_)
  · cases hidden <;> simp [panelWords, slotWords, Dataset.tableWords]
  · exact (speaks_headingPieces dataset).mono (by decide)
  · exact (speaks_warningPieces _).mono (by decide)
  · exact .flatMap fun view hview => (speaks_slotPieces htable hview).mono (by decide)

/-- The one attribute that holds a name of a dataset holds that of the panel. -/
theorem valuesOf_dataset : valuesOf .dataDataset (board.panelPieces dataset sheet selection hidden) = [dataset] := by
  have hheading := valuesOf_of_not_mem ((speaks_headingPieces dataset).not_mem (by decide) : Name.dataDataset ∉ _)
  have hwarnings := valuesOf_of_not_mem
    ((speaks_warningPieces sheet.table.warnings).not_mem (by decide) : Name.dataDataset ∉ _)
  have hslots : valuesOf .dataDataset (sheet.table.views.flatMap (board.slotPieces sheet dataset selection)) = [] := by
    have hspeaks : Speaks slotWords (sheet.table.views.flatMap (board.slotPieces sheet dataset selection)) :=
      .flatMap fun view hview => speaks_slotPieces htable hview
    exact valuesOf_of_not_mem (hspeaks.not_mem (by decide))
  rw [panelPieces, valuesOf_element, valuesOf_append, valuesOf_append, hheading, hwarnings, hslots]
  cases hidden <;> rfl

end Elements

/-! ### Reading the warnings -/

/-- The texts of the warnings, list by list. -/
def warningTexts (page : List Token) : List (List String) :=
  ((elements "ul" page).filter fun list => list.tag.value? "class" = some "projection-warnings").map fun list =>
    texts "li" list.content

theorem warningTexts_of_yields {pieces : List Piece} {others : List Element} {warnings : List (List NonFiniteCell)}
    (hothers : ∀ found ∈ others, found.tag.value? "class" = none)
    (h : Yields .ul pieces (others ++ warnings.flatMap warningLists)) :
    warningTexts (tokens pieces) = (warnings.map (·.map NonFiniteCell.text)).filter (· ≠ []) := by
  have hnone : (others.filter fun list => list.tag.value? "class" = some "projection-warnings") = [] := by
    rw [List.filter_eq_nil_iff]
    intro found hfound
    simp [hothers found hfound]
  rw [warningTexts, show "ul" = Name.ul.text from rfl, h.elements_eq, List.filter_append, hnone, List.nil_append]
  clear h
  induction warnings with
  | nil => rfl
  | cons first rest ih =>
    rw [List.flatMap_cons, List.filter_append, List.map_append, ih, List.map_cons, List.filter_cons,
      warningLists]
    cases first with
    | nil => rfl
    | cons warning more =>
      let list := elementOf .ul [(.cssClass, "projection-warnings")]
        (items .li ((warning :: more).map NonFiniteCell.text))
      have hclass : list.tag.value? "class" = some "projection-warnings" := rfl
      have htexts : texts "li" list.content = (warning :: more).map NonFiniteCell.text := texts_items .li _
      change (List.filter _ [list]).map _ ++ _ = _
      rw [List.filter_cons_of_pos (by rw [hclass]; rfl), List.filter_nil, List.map_singleton, htexts]
      rfl

/-- A panel has one list of warnings with an item for each, or none when there is no warning. -/
theorem warningTexts_panelPieces {board : Board} {sheet : Sheet} {dataset : String} {selection : Selection}
    (htable : sheet.dataset.results = .ok sheet.table) (hidden : Bool) :
    warningTexts (tokens (board.panelPieces dataset sheet selection hidden)) =
      if sheet.table.warnings.isEmpty then [] else [sheet.table.warnings.map NonFiniteCell.text] := by
  have hone : Yields .ul (board.panelPieces dataset sheet selection hidden)
      ([] ++ [sheet.table.warnings].flatMap warningLists) := by
    simpa using yields_warnings htable hidden
  rw [warningTexts_of_yields (fun _ hfound => absurd hfound List.not_mem_nil) hone, List.map_singleton]
  cases sheet.table.warnings <;> rfl

/-! ### The shape of panels -/

section Shapes

variable {board other : Board} {sheet more : Sheet} {dataset name : String} {selection chosen : Selection}

theorem shape_slotPieces (hnumbers : sheet.dataset.SameNumbers more.dataset)
    (htable : sheet.dataset.results = .ok sheet.table) (hmore : more.dataset.results = .ok more.table)
    (hworking : ∀ visual, board.broken visual = none) (hother : ∀ visual, other.broken visual = none)
    (hheight : other.height = board.height) {plan : ViewPlan} (hplan : plan ∈ ViewPlan.standard) :
    shape (other.slotPieces more name chosen (plan.on more.table)) =
      shape (board.slotPieces sheet dataset selection (plan.on sheet.table)) := by
  have hbody : shape (other.bodyPieces more name chosen (plan.on more.table)) =
      shape (board.bodyPieces sheet dataset selection (plan.on sheet.table)) := by
    rw [bodyPieces, bodyPieces, pieces_of_working hworking, pieces_of_working hother]
    by_cases hform : plan.form = .table
    · rw [pieces_of_table htable hplan hform, pieces_of_table hmore hplan hform]
      exact hnumbers.shape_tablePieces _ _ _ _
    · have hoptions : (other.visualOf more (plan.on more.table)).options =
          (board.visualOf sheet (plan.on sheet.table)).options := by
        simp only [visualOf, Visual.onView, hheight]
        rfl
      have halike := Dataset.failAlike_figure htable hmore hplan (board.visualOf sheet (plan.on sheet.table)).options
        (selection.rows sheet.table.rowCount) (chosen.rows more.table.rowCount) hform
      rw [pieces_of_chart hform, pieces_of_chart hform, hoptions]
      change FailAlike (Visual.figure (plan.on sheet.table).form (plan.on sheet.table) _
          (selection.rows (plan.on sheet.table).table.rowCount))
        (Visual.figure (plan.on more.table).form (plan.on more.table) _
          (chosen.rows (plan.on more.table).table.rowCount)) at halike
      cases hfigure : Visual.figure (plan.on sheet.table).form (plan.on sheet.table) _
        (selection.rows (plan.on sheet.table).table.rowCount) with
      | error fault =>
        rw [halike.error hfigure]
        rfl
      | ok figure =>
        obtain ⟨drawn, hdrawn⟩ := halike.isOk hfigure
        rw [hdrawn]
        rfl
  rw [slotPieces, slotPieces, shape_element, shape_element, hbody]

/-- The elements of a panel are fixed by its numbers: its texts and what is selected have no part in them. -/
theorem shape_panelPieces (hnumbers : sheet.dataset.SameNumbers more.dataset)
    (htable : sheet.dataset.results = .ok sheet.table) (hmore : more.dataset.results = .ok more.table)
    (hworking : ∀ visual, board.broken visual = none) (hother : ∀ visual, other.broken visual = none)
    (hheight : other.height = board.height) (hidden otherHidden : Bool) :
    shape (other.panelPieces name more chosen otherHidden) =
      shape (board.panelPieces dataset sheet selection hidden) := by
  have hlength := hnumbers.length_warnings htable hmore
  have hwarnings : shape (Panel.warningPieces more.table.warnings) =
      shape (Panel.warningPieces sheet.table.warnings) := by
    have hitems : shape (items .li (more.table.warnings.map NonFiniteCell.text)) =
        shape (items .li (sheet.table.warnings.map NonFiniteCell.text)) := by
      apply shape_items_congr
      rw [List.length_map, List.length_map, hlength]
    have hempty : more.table.warnings.isEmpty = sheet.table.warnings.isEmpty := by
      rw [Bool.eq_iff_iff, List.isEmpty_iff_length_eq_zero, List.isEmpty_iff_length_eq_zero, hlength]
    rw [warningPieces_eq, warningPieces_eq, hempty]
    split
    next => rfl
    next => rw [shape_element, shape_element, hitems]
  have hslots : shape (more.table.views.flatMap (other.slotPieces more name chosen)) =
      shape (sheet.table.views.flatMap (board.slotPieces sheet dataset selection)) := by
    rw [Table.views, Table.views, List.flatMap_map, List.flatMap_map]
    apply shape_flatMap_of_forall₂
    rw [List.forall₂_same]
    intro plan hplan
    exact shape_slotPieces hnumbers htable hmore hworking hother hheight hplan
  have hheading : shape (Panel.headingPieces name) = shape (Panel.headingPieces dataset) := rfl
  simp only [panelPieces, shape_element, shape_append, hheading, hwarnings, hslots]

end Shapes

end Board

end CodecReport
