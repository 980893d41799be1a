import CodecReport.Chart.Visual
import CodecReport.Proofs.Chart.Text
import CodecReport.Proofs.Table.Picks
import CodecReport.Report.Basic

/-!
# One position, one record

Charts, the results table and the report of a dataset each rebuild what they show from the columns of one
table. All of it is again what one function gives for the records in their order: nothing is dropped, a
quantity that is not finite leaves a gap at its place in a chart, and so a position means the same record in
every view, in the report and in the dataset.
-/

namespace CodecReport

namespace Quantity

variable {ds : Dataset}

/-- The coordinate of a record in a chart: its quantity, or a gap when that is not finite. -/
def point (q : Quantity) (ds : Dataset) (m : Measurement) : Option Double :=
  if (q.value ds m).isFinite then some (q.value ds m) else none

/-- One of the quantities of a results table, whose column has its value for every record. -/
structure Measured (q : Quantity) (ds : Dataset) (table : Table) : Prop where
  known : q ∈ Quantity.all
  cells : table.frame.get? q.column.name = some (ds.records.map fun m => .float (q.value ds m))

/-- The column of a quantity in a results table, with its cell for a record. -/
def recordColumn (q : Quantity) (ds : Dataset) : Column × (Measurement → Value) :=
  (q.column, fun m => .float (q.value ds m))

theorem coordinatesOf_values (q : Quantity) (ds : Dataset) :
    coordinatesOf (ds.records.map (q.recordColumn ds).2) = .ok (ds.records.map (q.point ds)) := by
  rw [coordinatesOf, mapM_eq_ok_iff, List.forall₂_map_left_iff, List.forall₂_map_right_iff,
    List.forall₂_same]
  intro m _
  rfl

end Quantity

namespace Figure

/-- A layout fixes neither the traces nor the categories of a figure. -/
theorem withLayout_eq_ok {title : String} {options : ChartOptions} {traces : List Trace}
    {categories : Option (List String)} {figure : Figure}
    (hfigure : withLayout title options traces categories = .ok figure) :
    figure.traces = traces ∧ figure.categories = categories := by
  simp only [withLayout, bind_eq_ok_iff, pure_eq_ok, Except.ok.injEq] at hfigure
  obtain ⟨_, _, _, _, _, _, _, _, _, _, rfl⟩ := hfigure
  exact ⟨rfl, rfl⟩

/-- What options have to tell for the layout of a figure, its height apart. -/
structure Settled (options : ChartOptions) : Prop where
  horizontal : ∃ title, ChartOptions.axisTitle options.horizontal = .ok title
  vertical : ∃ title, ChartOptions.axisTitle options.vertical = .ok title
  horizontalZero : ∃ zero, ChartOptions.fromZero options.horizontal = .ok zero
  verticalZero : ∃ zero, ChartOptions.fromZero options.vertical = .ok zero

end Figure

namespace Dataset

variable {ds : Dataset} {table : Table} {view : View}

def codecColumn : Column := ⟨"codec", "Codec", .text⟩

/-- The column of the codecs in a results table, with its cell for a record. -/
def codecRecordColumn : Column × (Measurement → Value) :=
  (codecColumn, fun m => .text m.codec)

theorem pickedCells_data {refs : List ColumnRef} (hdata : ∀ ref ∈ refs, ref.role = .data) :
    ds.pickedCells refs = (refs.filterMap ds.pick).map fun (column, cell) => (column.name, cell) := by
  rw [pickedCells, List.map_filterMap]
  apply List.filterMap_congr
  intro ref href
  cases ds.pick ref with
  | none => rfl
  | some found => simp only [Option.map_some, ColumnRef.key, hdata ref href]

theorem role_of_mem_data {columns : List Int} : ∀ ref ∈ ViewPlan.data columns, ref.role = .data := by
  intro ref href
  obtain ⟨column, _, rfl⟩ := List.mem_map.mp href
  rfl

theorem filter_data {refs : List ColumnRef} (hdata : ∀ ref ∈ refs, ref.role = .data) :
    refs.filter (·.role == .data) = refs := by
  rw [List.filter_eq_self]
  intro ref href
  rw [hdata ref href]
  rfl

/-! ### Bars -/

/-- A view of codecs against quantities. -/
structure BarView (ds : Dataset) (view : View) (series : List Quantity) : Prop where
  pickable : ds.Pickable view.refs
  data : ∀ ref ∈ view.refs, ref.role = .data
  picked : view.refs.filterMap ds.pick = codecRecordColumn :: series.map (·.recordColumn ds)

namespace BarView

variable {series : List Quantity}

theorem dataColumns (h : ds.BarView view series) (htable : ds.results = .ok view.table) :
    view.dataColumns = .ok (codecColumn :: series.map (·.column)) := by
  rw [View.dataColumns, filter_data h.data, View.resolveAll, resolveAll_of_picked htable h.pickable.picked,
    ← List.map_filterMap, h.picked]
  simp [codecRecordColumn, Quantity.recordColumn, Function.comp_def]

theorem frame (h : ds.BarView view series) (htable : ds.results = .ok view.table) :
    view.frame = .ok (.ofRecords ds.records
      (("codec", codecRecordColumn.2) :: series.map fun q => (q.column.name, (q.recordColumn ds).2))) := by
  rw [frame_of_pickable htable rfl h.pickable, pickedCells_data h.data, h.picked]
  simp [codecRecordColumn, codecColumn, Quantity.recordColumn, Function.comp_def]

theorem lengths (h : ds.BarView view series) (htable : ds.results = .ok view.table) {q : Quantity}
    (hq : q ∈ series) : view.lengths q.column = .ok (ds.records.map (q.point ds)) := by
  have hnodup : (ds.pickedCells view.refs).keys.Nodup := h.pickable.nodup
  have hmem : (q.column.name, (q.recordColumn ds).2) ∈ ds.pickedCells view.refs := by
    rw [pickedCells_data h.data, h.picked]
    exact List.mem_map_of_mem (List.mem_cons_of_mem _ (List.mem_map_of_mem hq))
  rw [View.lengths, frame_of_pickable htable rfl h.pickable]
  show coordinatesOf ((Entries.get? (Frame.ofRecords ds.records (ds.pickedCells view.refs))
    q.column.name).getD []) = _
  rw [Frame.get?_ofRecords ds.records hnodup hmem]
  exact q.coordinatesOf_values ds

/-- A bar chart has a bar for every record in every series, and the codecs for categories. -/
theorem figure (h : ds.BarView view series) (htable : ds.results = .ok view.table)
    (options : ChartOptions) (selected : List Nat) :
    Figure.bars view options selected = Figure.withLayout view.title options
      (series.map fun q => .bars q.column.label (ds.records.map (q.point ds)) selected)
      (some (ds.records.map (·.codec))) := by
  have hcategories : view.categories = .ok (ds.records.map (·.codec)) := by
    rw [View.categories, h.frame htable]
    show Except.ok ((ds.records.map codecRecordColumn.2).map Value.shown) = _
    rw [List.map_map]
    rfl
  have hseries : view.seriesColumns = .ok (series.map (·.column)) := by
    rw [View.seriesColumns, h.dataColumns htable]
    rfl
  have htraces : (series.map (·.column)).mapM (fun column => do
      return Trace.bars column.label (← view.lengths column) selected) =
      .ok (series.map fun q => .bars q.column.label (ds.records.map (q.point ds)) selected) := by
    rw [mapM_eq_ok_iff, List.forall₂_map_left_iff, List.forall₂_map_right_iff, List.forall₂_same]
    intro q hq
    rw [h.lengths htable hq]
    rfl
  rw [Figure.bars, hcategories, hseries]
  simp only [bind, Except.bind] at htraces ⊢
  rw [htraces]

end BarView

/-! ### Points -/

/-- A view of two quantities against each other, with the codecs for tooltips. -/
structure ScatterView (ds : Dataset) (view : View) (x y : Quantity) : Prop where
  pickable : ds.Pickable view.refs
  data : (view.refs.filter (·.role == .data)).filterMap ds.pick = [x.recordColumn ds, y.recordColumn ds]
  tooltips : (view.refs.filter (·.role == .tooltip)).filterMap ds.pick = [codecRecordColumn]
  cells : ds.pickedCells view.refs =
    [(x.column.name, (x.recordColumn ds).2), (y.column.name, (y.recordColumn ds).2),
      ("codec" ++ tooltipSuffix, codecRecordColumn.2)]
  plain : x.column.name.endsWith tooltipSuffix = false ∧ y.column.name.endsWith tooltipSuffix = false

namespace ScatterView

variable {x y : Quantity}

theorem columns_of_role (hpickable : ds.Pickable view.refs) (htable : ds.results = .ok view.table)
    (role : Role) : view.resolveAll (view.refs.filter (·.role == role)) =
      .ok (((view.refs.filter (·.role == role)).filterMap ds.pick).map Prod.fst) := by
  have hpicked : ∀ ref ∈ view.refs.filter (·.role == role), (ds.pick ref).isSome := by
    intro ref href
    exact hpickable.picked ref (List.mem_filter.mp href).1
  rw [View.resolveAll, resolveAll_of_picked htable hpicked, List.map_filterMap]

theorem dataColumns (h : ds.ScatterView view x y) (htable : ds.results = .ok view.table) :
    view.dataColumns = .ok [x.column, y.column] := by
  rw [View.dataColumns, columns_of_role h.pickable htable, h.data]
  rfl

theorem tooltipColumns (h : ds.ScatterView view x y) (htable : ds.results = .ok view.table) :
    view.tooltipColumns = .ok [codecColumn] := by
  rw [View.tooltipColumns, columns_of_role h.pickable htable, h.tooltips]
  rfl

/-- A scatter chart has a point for every record, with its codec for text. -/
theorem points (h : ds.ScatterView view x y) (htable : ds.results = .ok view.table) :
    view.points = .ok {
      xColumn := x.column
      yColumn := y.column
      x := ds.records.map (x.point ds)
      y := ds.records.map (y.point ds)
      text := some (ds.records.map (·.codec)) } := by
  have hnodup : (ds.pickedCells view.refs).keys.Nodup := h.pickable.nodup
  have hx : Entries.get? (Frame.ofRecords ds.records (ds.pickedCells view.refs)) x.column.name =
      some (ds.records.map (x.recordColumn ds).2) :=
    Frame.get?_ofRecords ds.records hnodup (by rw [h.cells]; exact List.mem_cons_self)
  have hy : Entries.get? (Frame.ofRecords ds.records (ds.pickedCells view.refs)) y.column.name =
      some (ds.records.map (y.recordColumn ds).2) :=
    Frame.get?_ofRecords ds.records hnodup
      (by rw [h.cells]; exact List.mem_cons_of_mem _ List.mem_cons_self)
  have htext : ((Frame.ofRecords ds.records (ds.pickedCells view.refs)).find?
      fun entry => entry.1.endsWith tooltipSuffix).map (fun entry => entry.2.map Value.shown) =
      some (ds.records.map (·.codec)) := by
    have hsuffix : ("codec" ++ tooltipSuffix).endsWith tooltipSuffix = true := by decide +kernel
    rw [h.cells]
    simp only [Frame.ofRecords, List.map_cons, List.map_nil, List.find?_cons, h.plain.1, h.plain.2,
      hsuffix, Option.map_some, List.map_map]
    rfl
  rw [View.points, frame_of_pickable htable rfl h.pickable, h.dataColumns htable]
  simp only [bind, Except.bind, hx, hy, Option.getD_some, Quantity.coordinatesOf_values]
  rw [htext]
  rfl

theorem figure (h : ds.ScatterView view x y) (htable : ds.results = .ok view.table)
    (options : ChartOptions) (selected : List Nat) :
    ∃ hover, Figure.scatter view options selected = Figure.withLayout view.title options
      [.points y.column.label hover (ds.records.map (x.point ds)) (ds.records.map (y.point ds))
        (some (ds.records.map (·.codec))) selected] none := by
  rw [Figure.scatter, h.points htable]
  exact ⟨_, rfl⟩

end ScatterView

/-! ### Rows -/

/-- The texts that the results table shows for a record. -/
def rowTexts (ds : Dataset) (m : Measurement) : List String :=
  [Text.escape m.plugin, Text.escape m.codec] ++ Quantity.all.map fun q => (q.value ds m).fixed2

/-- The element of a record in the results table. -/
def rowElement (ds : Dataset) (selected : List Nat) (index : Nat) (m : Measurement) : String :=
  "<tr data-row=\"" ++ toString index ++ "\""
    ++ (if selected.contains index then " class=\"selected\"" else "") ++ ">"
    ++ String.join ((ds.rowTexts m).map fun text => "<td>" ++ text ++ "</td>") ++ "</tr>"

/-- The results table with one row for every record. -/
def tableElement (ds : Dataset) (container : String) (selected : List Nat) : String :=
  "<table id=\"" ++ container ++ "\" class=\"results-table\"><thead><tr>"
    ++ Visual.headHtml resultColumns ++ "</tr></thead><tbody>"
    ++ String.join (ds.records.zipIdx.map fun (m, index) => ds.rowElement selected index m)
    ++ "</tbody></table>"

theorem rowHtml_row (ds : Dataset) (selected : List Nat) (index : Nat) (m : Measurement) :
    Visual.rowHtml resultColumns selected index (ds.row m) = .ok (ds.rowElement selected index m) := rfl

/-- A view of all columns of a results table, in their order. -/
structure TableView (ds : Dataset) (view : View) : Prop where
  pickable : ds.Pickable view.refs
  cells : ds.pickedCells view.refs = ds.recordCells
  picked : view.refs.filterMap (fun ref => (ds.pick ref).map Prod.fst) = resultColumns

theorem TableView.element (h : ds.TableView view) (htable : ds.results = .ok view.table)
    (container : String) (selected : List Nat) :
    Visual.tableHtml container view selected = .ok (ds.tableElement container selected) := by
  have hcolumns : view.columns = .ok resultColumns := by
    rw [View.columns, View.resolveAll, resolveAll_of_picked htable h.pickable.picked, h.picked]
  have hframe : view.frame = .ok (.ofRecords ds.records ds.recordCells) := by
    rw [frame_of_pickable htable rfl h.pickable, h.cells]
  have hrows : Frame.rows (.ofRecords ds.records ds.recordCells) = ds.records.map ds.row :=
    Frame.rows_ofRecords ds.records ds.recordCells_ne_nil
  have helements : List.Forall₂ (fun entry html =>
      Visual.rowHtml resultColumns selected entry.2 entry.1 = .ok html) (ds.records.map ds.row).zipIdx
      (ds.records.zipIdx.map fun entry => ds.rowElement selected entry.2 entry.1) := by
    rw [List.zipIdx_map, List.forall₂_map_left_iff, List.forall₂_map_right_iff, List.forall₂_same]
    intro entry _
    exact rowHtml_row ds selected entry.2 entry.1
  rw [← hrows] at helements
  rw [Visual.tableHtml, hcolumns, hframe]
  exact bind_eq_ok_iff.mpr ⟨_, rfl, bind_eq_ok_iff.mpr ⟨_, rfl,
    bind_eq_ok_iff.mpr ⟨_, mapM_eq_ok_iff.mpr helements, rfl⟩⟩⟩

/-! ### Reports -/

/-- The fields that a report has for a record. -/
def reportRow (ds : Dataset) (m : Measurement) : List String :=
  [m.plugin, m.codec] ++ (Quantity.all.map fun q => Report.numberField (q.value ds m))
    ++ [m.size, m.compressCpu, m.decompressCpu, m.compressWall.getD .nan,
      m.decompressWall.getD .nan].map Report.numberField

/-- The report of a dataset, column by column. -/
def reportColumns (ds : Dataset) : Report :=
  [("plugin", .texts (ds.records.map (·.plugin))), ("codec", .texts (ds.records.map (·.codec)))]
    ++ (Quantity.all.map fun q => (q.column.name, .numbers (ds.records.map (q.value ds))))
    ++ Report.measured ds.records

theorem ofSheet_eq (htable : ds.results = .ok table) (id : String) :
    Report.ofSheet { dataset := ds, table, id } = ds.reportColumns := by
  obtain ⟨rfl, _⟩ := results_eq_ok htable
  have hcells : ∀ found ∈ ds.recordColumns,
      Entries.get? (Frame.ofRecords ds.records ds.recordCells) found.1.name =
        some (ds.records.map found.2) := by
    intro found hfound
    exact Frame.get?_ofRecords ds.records ds.nodup_recordCells (List.mem_map_of_mem hfound)
  have hprojected : (resultColumns.map fun column => (column.name, Report.tableCells column.kind
        ((Entries.get? (Frame.ofRecords ds.records ds.recordCells) column.name).getD []))) =
      ds.recordColumns.map fun found =>
        (found.1.name, Report.tableCells found.1.kind (ds.records.map found.2)) := by
    rw [← recordColumns_fst ds, List.map_map]
    apply List.map_congr_left
    intro found hfound
    rw [Function.comp_apply, hcells found hfound, Option.getD_some]
  rw [Report.ofSheet, Report.projected, hprojected]
  simp only [recordColumns, reportColumns, Report.tableCells, Quantity.all, List.map_cons, List.map_nil,
    List.map_map, List.cons_append, List.nil_append]
  rfl

theorem rows_reportColumns (ds : Dataset) :
    ds.reportColumns.rows ds.records.length = ds.records.map ds.reportRow := by
  apply List.ext_getElem
  · simp [Report.rows]
  · intro i hi hi'
    have hlt : i < ds.records.length := by simpa using hi'
    simp [Report.rows, reportColumns, Report.measured, Report.fields, reportRow, Quantity.all, hlt]

/-! ### All views -/

/-- Everything that a view of a results table shows has one part for every record, in their order. What a chart shows
of the records are the quantities and codecs of the table, those that the columns of the view name. -/
structure Shows (ds : Dataset) (view : View) : Prop where
  cells : ∃ columns frame, view.columns = .ok columns ∧ view.frame = .ok frame ∧
    List.Forall₂ (fun column entry => view.table.frame.get? column.name = some entry.2 ∧
      entry.2.length = ds.records.length) columns frame
  codecs : view.table.frame.get? codecColumn.name = some (ds.records.map fun m => .text m.codec)
  form : view.form = .table ∨ view.form = .bar ∨ view.form = .scatter
  element : view.form = .table → ∀ container selected,
    Visual.tableHtml container view selected = .ok (ds.tableElement container selected)
  bars : view.form = .bar → ∃ series : List Quantity, (∀ q ∈ series, q.Measured ds view.table) ∧
    view.dataColumns = .ok (codecColumn :: series.map (·.column)) ∧
    ∀ options selected, Visual.figure .bar view options selected =
      Figure.withLayout view.title options
        (series.map fun q => .bars q.column.label (ds.records.map (q.point ds)) selected)
        (some (ds.records.map (·.codec)))
  points : view.form = .scatter → ∃ x y : Quantity, (x.Measured ds view.table ∧ y.Measured ds view.table) ∧
    view.dataColumns = .ok [x.column, y.column] ∧ view.tooltipColumns = .ok [codecColumn] ∧
    ∀ options selected, ∃ hover, Visual.figure .scatter view options selected =
      Figure.withLayout view.title options
        [.points y.column.label hover (ds.records.map (x.point ds)) (ds.records.map (y.point ds))
          (some (ds.records.map (·.codec))) selected] none
  selectedRows : ∀ visual : Visual, visual.view = some view → ∀ selection,
    visual.selectedRows selection = selection.rows ds.records.length

theorem selectedRows_of_results (htable : ds.results = .ok view.table) {visual : Visual}
    (hvisual : visual.view = some view) (selection : Selection) :
    visual.selectedRows selection = selection.rows ds.records.length := by
  rw [Visual.selectedRows, hvisual]
  show selection.rows view.table.rowCount = _
  rw [rowCount_of_results htable]

/-- The picked cells of a view are columns of its table, whole. -/
theorem cells_of_pickable (htable : ds.results = .ok view.table) (hrefs : ds.Pickable view.refs) :
    ∃ columns frame, view.columns = .ok columns ∧ view.frame = .ok frame ∧
      List.Forall₂ (fun column entry => view.table.frame.get? column.name = some entry.2 ∧
        entry.2.length = ds.records.length) columns frame := by
  refine ⟨_, _, resolveAll_of_picked htable hrefs.picked, frame_of_pickable htable rfl hrefs, ?_⟩
  have hcells : ∀ refs : List ColumnRef, (∀ ref ∈ refs, (ds.pick ref).isSome) →
      List.Forall₂ (fun column entry => view.table.frame.get? column.name = some entry.2 ∧
        entry.2.length = ds.records.length)
        (refs.filterMap fun ref => (ds.pick ref).map Prod.fst)
        (Frame.ofRecords ds.records (ds.pickedCells refs)) := by
    intro refs hpicked
    induction refs with
    | nil => exact .nil
    | cons ref rest ih =>
      obtain ⟨⟨column, cell⟩, hpick⟩ := Option.isSome_iff_exists.mp (hpicked ref List.mem_cons_self)
      rw [List.filterMap_cons, hpick, pickedCells_cons hpick]
      refine .cons ⟨?_, List.length_map ..⟩ (ih fun other hother => hpicked other (.tail _ hother))
      exact cells_of_mem htable (mem_recordColumns_of_pick hpick)
  exact hcells view.refs hrefs.picked

theorem measured_of_results (htable : ds.results = .ok table) {q : Quantity} (hq : q ∈ Quantity.all) :
    q.Measured ds table := by
  have hcolumn : q.recordColumn ds ∈ ds.recordColumns := List.mem_append_right _ (List.mem_map_of_mem hq)
  exact ⟨hq, cells_of_mem htable hcolumn⟩

theorem codecs_of_results (htable : ds.results = .ok table) :
    table.frame.get? codecColumn.name = some (ds.records.map fun m => .text m.codec) := by
  have hcolumn : codecRecordColumn ∈ ds.recordColumns := List.mem_append_left _ (.tail _ List.mem_cons_self)
  exact cells_of_mem htable hcolumn

theorem shows_of_tableView (htable : ds.results = .ok view.table) (hform : view.form = .table)
    (h : ds.TableView view) : ds.Shows view where
  cells := cells_of_pickable htable h.pickable
  codecs := codecs_of_results htable
  form := .inl hform
  element := fun _ => h.element htable
  bars := fun hother => nomatch hform.symm.trans hother
  points := fun hother => nomatch hform.symm.trans hother
  selectedRows := fun _ => selectedRows_of_results htable

theorem shows_of_barView (series : List Quantity) (hknown : ∀ q ∈ series, q ∈ Quantity.all)
    (htable : ds.results = .ok view.table) (hform : view.form = .bar) (h : ds.BarView view series) :
    ds.Shows view where
  cells := cells_of_pickable htable h.pickable
  codecs := codecs_of_results htable
  form := .inr (.inl hform)
  element := fun hother => nomatch hform.symm.trans hother
  bars := fun _ => ⟨series, fun q hq => measured_of_results htable (hknown q hq), h.dataColumns htable,
    h.figure htable⟩
  points := fun hother => nomatch hform.symm.trans hother
  selectedRows := fun _ => selectedRows_of_results htable

theorem shows_of_scatterView {x y : Quantity} (hx : x ∈ Quantity.all) (hy : y ∈ Quantity.all)
    (htable : ds.results = .ok view.table) (hform : view.form = .scatter) (h : ds.ScatterView view x y) :
    ds.Shows view where
  cells := cells_of_pickable htable h.pickable
  codecs := codecs_of_results htable
  form := .inr (.inr hform)
  element := fun hother => nomatch hform.symm.trans hother
  bars := fun hother => nomatch hform.symm.trans hother
  points := fun _ => ⟨x, y, ⟨measured_of_results htable hx, measured_of_results htable hy⟩, h.dataColumns htable,
    h.tooltipColumns htable, h.figure htable⟩
  selectedRows := fun _ => selectedRows_of_results htable

theorem shows_of_views (htable : ds.results = .ok table) : ∀ view ∈ table.views, ds.Shows view := by
  have hplain : ∀ q ∈ Quantity.all, q.column.name.endsWith tooltipSuffix = false := by
    intro q hq
    simp only [Quantity.all, List.mem_cons, List.not_mem_nil, or_false] at hq
    rcases hq with rfl | rfl | rfl <;> decide +kernel
  have hratio : .ratio ∈ Quantity.all := List.mem_cons_self
  have hcompress : .compressSpeed ∈ Quantity.all := .tail _ List.mem_cons_self
  have hdecompress : .decompressSpeed ∈ Quantity.all := .tail _ (.tail _ List.mem_cons_self)
  intro view hview
  obtain ⟨plan, hplan, rfl⟩ := List.mem_map.mp hview
  have hpickable := ds.pickable_standard hplan
  simp only [ViewPlan.standard, List.mem_cons, List.not_mem_nil, or_false] at hplan
  rcases hplan with rfl | rfl | rfl | rfl | rfl | rfl
  · exact shows_of_tableView htable rfl ⟨hpickable, rfl, rfl⟩
  · exact shows_of_barView [.ratio] (by simpa using hratio) htable rfl
      ⟨hpickable, role_of_mem_data, rfl⟩
  · exact shows_of_barView [.compressSpeed, .decompressSpeed] (by simpa using ⟨hcompress, hdecompress⟩) htable rfl
      ⟨hpickable, role_of_mem_data, rfl⟩
  · exact shows_of_scatterView hcompress hratio htable rfl
      ⟨hpickable, rfl, rfl, rfl, hplain _ hcompress, hplain _ hratio⟩
  · exact shows_of_scatterView hdecompress hratio htable rfl
      ⟨hpickable, rfl, rfl, rfl, hplain _ hdecompress, hplain _ hratio⟩
  · exact shows_of_scatterView hcompress hdecompress htable rfl
      ⟨hpickable, rfl, rfl, rfl, hplain _ hcompress, hplain _ hdecompress⟩

/-- A dataset with a record that took no time, so that its speeds have no finite number. -/
def oneInstant : Dataset where
  name := "d"
  uncompressedSize := Double.ofInt 300
  records := [⟨"p", "c", Double.ofInt 100, Double.ofInt 0, Double.ofInt 0, none, none⟩,
    ⟨"p", "e", Double.ofInt 0, Double.ofInt 2, Double.ofInt 1, none, none⟩]

theorem exists_results_oneInstant : ∃ table, oneInstant.results = .ok table :=
  exists_ok_of_isOk (by decide +kernel)

end Dataset

end CodecReport
