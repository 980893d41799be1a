import CodecReport.Proofs.Panel.Isolation
import CodecReport.Proofs.Panel.Wording

/-!
# What is marked in a panel

A table marks the selected rows by a class, and a chart lists them in every trace, in a property that is absent when
there are none. In whatever is drawn of a dataset the marked rows are those of the selection it is drawn with: of a
table that has a row for every record, and of every chart.
-/

namespace CodecReport

open Markup

/-! ### Traces -/

/-- The text of a figure lists just these rows as selected in every trace, and there is a trace. -/
def Figure.MarksIn (text : String) (rows : List Nat) : Prop :=
  ∃ traces, Json.listAt? "data" text = some traces ∧ traces ≠ [] ∧ ∀ trace ∈ traces, Trace.SelectsIn trace rows

theorem Figure.marksIn_text {f : Figure} {rows : List Nat} (hsome : f.traces ≠ [])
    (hselected : ∀ trace ∈ f.traces, trace.selected = rows) : MarksIn f.text rows := by
  refine ⟨_, f.listAt?_data, fun hnil => hsome (List.map_eq_nil_iff.mp hnil), fun text htext => ?_⟩
  obtain ⟨trace, htrace, rfl⟩ := List.mem_map.mp htext
  exact hselected trace htrace ▸ trace.selectsIn_traceText

namespace Dataset

variable {ds : Dataset} {table : Table} {view : View} {options : ChartOptions} {rows : List Nat} {figure : Figure}

theorem Shows.traces_selected (h : ds.Shows view)
    (hfigure : Visual.figure view.form view options rows = .ok figure) :
    ∀ trace ∈ figure.traces, trace.selected = rows := by
  rcases h.form with hform | hform | hform
  · rw [hform] at hfigure
    cases hfigure
  · obtain ⟨series, _, _, hbars⟩ := h.bars hform
    rw [hform, hbars] at hfigure
    rw [(Figure.withLayout_eq_ok hfigure).1]
    intro trace htrace
    obtain ⟨q, _, rfl⟩ := List.mem_map.mp htrace
    rfl
  · obtain ⟨x, y, _, _, _, hpoints⟩ := h.points hform
    obtain ⟨hover, hequal⟩ := hpoints options rows
    rw [hform, hequal] at hfigure
    rw [(Figure.withLayout_eq_ok hfigure).1]
    intro trace htrace
    rw [List.mem_singleton.mp htrace]
    rfl

/-- A bar chart picks another column of data than the categories, so every chart has a trace. -/
theorem traces_ne_nil (htable : ds.results = .ok table) (hview : view ∈ table.views)
    (hfigure : Visual.figure view.form view options rows = .ok figure) : figure.traces ≠ [] := by
  have hshows := shows_of_views htable view hview
  obtain ⟨plan, hplan, rfl⟩ := List.mem_map.mp hview
  rcases hshows.form with hform | hform | hform
  · rw [hform] at hfigure
    cases hfigure
  · obtain ⟨series, _, hcolumns, hbars⟩ := hshows.bars hform
    have hlength := (mapM_eq_ok_iff.mp hcolumns).length_eq
    have hplans : ∀ plan ∈ ViewPlan.standard, 1 < (plan.refs.filter (·.role == .data)).length := by decide
    rw [hform, hbars] at hfigure
    rw [(Figure.withLayout_eq_ok hfigure).1]
    intro hnil
    rw [List.map_eq_nil_iff.mp hnil] at hlength
    exact absurd hlength (Nat.ne_of_gt (hplans plan hplan))
  · obtain ⟨x, y, _, _, _, hpoints⟩ := hshows.points hform
    obtain ⟨hover, hequal⟩ := hpoints options rows
    rw [hform, hequal] at hfigure
    rw [(Figure.withLayout_eq_ok hfigure).1]
    exact List.cons_ne_nil _ _

end Dataset

/-! ### Reading marks -/

namespace Markup

/-- What a row of a table says: its number and its class, as far as it has them. -/
def Tag.rowMark? (tag : Tag) : Option (Option String × Option String) :=
  if tag.name = "tr" then some (tag.value? "data-row", tag.value? "class") else none

/-- What the rows of the tables say, those of the headings included. -/
def rowMarks (page : List Token) : List (Option String × Option String) :=
  (tags page).filterMap Tag.rowMark?

def Piece.figure? : Piece → Option Figure
  | figure f => some f
  | _ => none

def figures (pieces : List Piece) : List Figure :=
  pieces.filterMap Piece.figure?

theorem rowMarks_append (pieces more : List Piece) :
    rowMarks (tokens (pieces ++ more)) = rowMarks (tokens pieces) ++ rowMarks (tokens more) := by
  rw [tokens_append, rowMarks, tags, List.filterMap_append, List.filterMap_append]
  rfl

theorem rowMarks_element (name : Name) (attributes : List (Name × String)) (inside : List Piece) :
    rowMarks (tokens (element name attributes inside)) =
      (if name = .tr then
        let value? (key : String) := (attributes.map fun (name, value) => (name.text, value)).lookup key
        [(value? "data-row", value? "class")]
      else []) ++ rowMarks (tokens inside) := by
  have hsplit : element name attributes inside = [.opening name attributes] ++ inside ++ [.closing name] := rfl
  have hclosing : rowMarks (tokens [.closing name]) = [] := rfl
  rw [hsplit, rowMarks_append, rowMarks_append, hclosing, List.append_nil]
  congr 1
  rw [rowMarks, tags_tokens]
  by_cases hname : name = .tr
  · subst hname
    rfl
  · have htext : name.text ≠ "tr" := fun htext => hname (Name.text_inj htext)
    rw [if_neg hname]
    exact List.filterMap_cons_none (if_neg htext)

theorem rowMarks_flatMap {α : Type} {items : List α} {f : α → List Piece}
    {g : α → List (Option String × Option String)} (hitems : ∀ item ∈ items, rowMarks (tokens (f item)) = g item) :
    rowMarks (tokens (items.flatMap f)) = items.flatMap g := by
  induction items with
  | nil => rfl
  | cons item rest ih =>
    obtain ⟨hfirst, hrest⟩ := List.forall_mem_cons.mp hitems
    rw [List.flatMap_cons, List.flatMap_cons, rowMarks_append, hfirst, ih hrest]

/-- Pieces without rows of tables say nothing about rows. -/
theorem rowMarks_of_not_mem {pieces : List Piece} (hname : .tr ∉ words pieces) : rowMarks (tokens pieces) = [] := by
  rw [rowMarks, tags_tokens, List.filterMap_eq_nil_iff]
  intro tag htag
  obtain ⟨piece, hpiece, hopening⟩ := List.mem_filterMap.mp htag
  cases piece with
  | opening name attributes =>
    cases hopening
    refine if_neg fun htext => hname (List.mem_flatMap.mpr ⟨_, hpiece, ?_⟩)
    obtain rfl : name = .tr := Name.text_inj htext
    exact List.mem_cons_self
  | _ => cases hopening

@[simp] theorem figures_append (pieces more : List Piece) : figures (pieces ++ more) = figures pieces ++ figures more :=
  List.filterMap_append

@[simp] theorem figures_element (name : Name) (attributes : List (Name × String)) (inside : List Piece) :
    figures (element name attributes inside) = figures inside := by
  rw [element, figures_append]
  exact List.append_nil _

theorem figures_flatMap_eq_nil {α : Type} {items : List α} {f : α → List Piece}
    (hitems : ∀ item ∈ items, figures (f item) = []) : figures (items.flatMap f) = [] := by
  induction items with
  | nil => rfl
  | cons item rest ih =>
    obtain ⟨hfirst, hrest⟩ := List.forall_mem_cons.mp hitems
    rw [List.flatMap_cons, figures_append, hfirst, ih hrest]
    rfl

theorem besideFigures_eq_self {pieces : List Piece} (hnone : figures pieces = []) :
    besideFigures pieces = pieces := by
  refine List.filter_eq_self.mpr fun piece hpiece => ?_
  have hfigure := List.filterMap_eq_nil_iff.mp hnone piece hpiece
  cases piece with
  | figure f => cases hfigure
  | _ => rfl

theorem figures_items (name : Name) (words : List String) : figures (items name words) = [] :=
  figures_flatMap_eq_nil fun _ _ => figures_element ..

end Markup

/-- What the rows of a table of `n` records say when these rows are selected: nothing in the heading, and then one row
after the other its number, and whether it is selected. -/
def tableMarks (n : Nat) (rows : List Nat) : List (Option String × Option String) :=
  (none, none) :: (List.range n).map fun i => (some (toString i), if i ∈ rows then some "selected" else none)

/-- Pieces that show these visualizations of `n` records, with just these rows marked in each of them. -/
structure Marked (n : Nat) (rows : List Nat) (visuals : List Visual) (pieces : List Piece) : Prop where
  table : rowMarks (scan (Markup.html (besideFigures pieces))) =
    visuals.flatMap fun visual => if visual.form = .table then tableMarks n rows else []
  charts : (figures pieces).length = (visuals.filter fun visual => visual.form ≠ .table).length
  traces : ∀ figure ∈ figures pieces, Figure.MarksIn figure.text rows

namespace Marked

variable {n : Nat} {rows : List Nat} {visuals others : List Visual} {pieces more : List Piece}

theorem of_plain (hrows : .tr ∉ words pieces) (hfigures : figures pieces = []) : Marked n rows [] pieces where
  table := by
    rw [scan_besideFigures, rowMarks_of_not_mem hrows]
    rfl
  charts := by
    rw [hfigures]
    rfl
  traces := by
    rw [hfigures]
    exact fun _ hfigure => absurd hfigure List.not_mem_nil

theorem append (h : Marked n rows visuals pieces) (hmore : Marked n rows others more) :
    Marked n rows (visuals ++ others) (pieces ++ more) where
  table := by
    have hfirst := h.table
    have hsecond := hmore.table
    rw [scan_besideFigures] at hfirst hsecond ⊢
    rw [rowMarks_append, hfirst, hsecond, List.flatMap_append]
  charts := by
    rw [figures_append, List.length_append, h.charts, hmore.charts, List.filter_append, List.length_append]
  traces := by
    rw [figures_append]
    intro figure hfigure
    rcases List.mem_append.mp hfigure with hfirst | hsecond
    · exact h.traces figure hfirst
    · exact hmore.traces figure hsecond

theorem flatMap {α : Type} {items : List α} {f : α → List Piece} {g : α → List Visual}
    (hitems : ∀ item ∈ items, Marked n rows (g item) (f item)) :
    Marked n rows (items.flatMap g) (items.flatMap f) := by
  induction items with
  | nil => exact .of_plain List.not_mem_nil rfl
  | cons item rest ih =>
    obtain ⟨hfirst, hrest⟩ := List.forall_mem_cons.mp hitems
    exact hfirst.append (ih hrest)

theorem around {outer : Name} {attributes : List (Name × String)} (houter : outer ≠ .tr)
    (h : Marked n rows visuals pieces) : Marked n rows visuals (element outer attributes pieces) where
  table := by
    have hinside := h.table
    rw [scan_besideFigures] at hinside ⊢
    rw [rowMarks_element, if_neg houter, List.nil_append, hinside]
  charts := by rw [figures_element, h.charts]
  traces := by
    rw [figures_element]
    exact h.traces

end Marked

/-! ### What is drawn of a dataset -/

namespace Dataset

theorem rowMarks_rowPieces (ds : Dataset) (selected : List Nat) (index : Nat) (m : Measurement) :
    rowMarks (tokens (ds.rowPieces selected index m)) =
      [(some (toString index), if index ∈ selected then some "selected" else none)] := by
  have hcells : rowMarks (tokens (items .td (ds.rowWords m))) = [] :=
    rowMarks_of_not_mem ((speaks_items .td _).not_mem (by decide))
  rw [rowPieces, rowMarks_element, hcells]
  by_cases hindex : index ∈ selected
  · rw [if_pos (List.contains_iff_mem.mpr hindex), if_pos hindex]
    rfl
  · rw [if_neg (fun h => hindex (List.contains_iff_mem.mp h)), if_neg hindex]
    rfl

theorem rowMarks_tablePieces (ds : Dataset) (container : String) (selected : List Nat) :
    rowMarks (tokens (ds.tablePieces container selected)) = tableMarks ds.records.length selected := by
  have hbody : rowMarks (tokens (ds.bodyPieces selected)) = (List.range ds.records.length).map fun i =>
      (some (toString i), if i ∈ selected then some "selected" else none) := by
    rw [bodyPieces, rowMarks_flatMap fun entry _ => ds.rowMarks_rowPieces selected entry.2 entry.1,
      ← List.map_eq_flatMap, List.range_eq_range', ← List.zipIdx_map_snd 0 ds.records, List.map_map]
    rfl
  have hhead : rowMarks (tokens (Visual.headPieces resultColumns)) = [] := rowMarks_of_not_mem (by decide)
  rw [tablePieces, rowMarks_element, rowMarks_append, rowMarks_element, rowMarks_element, rowMarks_element, hbody,
    hhead]
  rfl

theorem figures_tablePieces (ds : Dataset) (container : String) (selected : List Nat) :
    figures (ds.tablePieces container selected) = [] := by
  have hhead : figures (Visual.headPieces resultColumns) = [] := figures_flatMap_eq_nil fun _ _ => figures_element ..
  have hbody : figures (ds.bodyPieces selected) = [] :=
    figures_flatMap_eq_nil fun _ _ => (figures_element ..).trans (figures_items ..)
  simp only [tablePieces, figures_element, figures_append, hhead, hbody, List.append_nil]

end Dataset

theorem Marked.of_tablePieces (ds : Dataset) (container : String) (rows : List Nat) {visual : Visual}
    (hform : visual.form = .table) :
    Marked ds.records.length rows [visual] (ds.tablePieces container rows) where
  table := by rw [scan_besideFigures, ds.rowMarks_tablePieces, List.flatMap_singleton, if_pos hform]
  charts := by
    rw [ds.figures_tablePieces, List.filter_cons_of_neg (by simpa using hform)]
    rfl
  traces := by
    rw [ds.figures_tablePieces]
    exact fun _ hfigure => absurd hfigure List.not_mem_nil

theorem Marked.of_figurePieces (n : Nat) (container : String) {rows : List Nat} {figure : Figure}
    (hsome : figure.traces ≠ []) (hselected : ∀ trace ∈ figure.traces, trace.selected = rows) {visual : Visual}
    (hform : visual.form ≠ .table) : Marked n rows [visual] (Visual.figurePieces container figure) where
  table := by
    have hplain : Name.tr ∉ words (Visual.figurePieces container figure) := by
      simp [Piece.words, Visual.figurePieces]
    rw [scan_besideFigures, rowMarks_of_not_mem hplain, List.flatMap_singleton, if_neg hform]
  charts := by
    rw [List.filter_cons_of_pos (by simpa using hform)]
    rfl
  traces := by
    intro found hfound
    obtain rfl := List.mem_singleton.mp hfound
    exact Figure.marksIn_text hsome hselected

/-- The element of a visualization of `n` records marks just these rows: a table in the classes of its rows, and a chart
in every one of the traces in its text. -/
structure Visual.MarksJust (visual : Visual) (n : Nat) (rows : List Nat) (html : String) : Prop where
  table : visual.form = .table → rowMarks (scan html) = tableMarks n rows
  chart : visual.form ≠ .table → ∃ text, Figure.chartText? html = some text ∧ Figure.MarksIn text rows

namespace Board

variable {board : Board} {sheet : Sheet} {view : View}

/-- What is drawn of a view marks the rows of the selection it is drawn with. -/
theorem marked_pieces (htable : sheet.dataset.results = .ok sheet.table) (hview : view ∈ sheet.table.views)
    {selection : Selection} {pieces : List Piece}
    (hpieces : board.pieces (board.visualOf sheet view) selection = .ok pieces) :
    Marked sheet.dataset.records.length (selection.rows sheet.dataset.records.length)
      [board.visualOf sheet view] pieces := by
  have hcount : sheet.table.rowCount = sheet.dataset.records.length := Dataset.rowCount_of_results htable
  have hshows := Dataset.shows_of_views htable view hview
  rw [Board.pieces] at hpieces
  split at hpieces
  next => cases hpieces
  next =>
    by_cases hform : view.form = .table
    · obtain ⟨plan, hplan, rfl⟩ := List.mem_map.mp hview
      rw [pieces_of_table htable hplan hform, hcount] at hpieces
      cases hpieces
      exact .of_tablePieces _ _ _ hform
    · have htableOf : view.table = sheet.table := by
        obtain ⟨plan, _, rfl⟩ := List.mem_map.mp hview
        rfl
      rw [pieces_of_chart hform, htableOf, hcount] at hpieces
      obtain ⟨figure, hfigure, rfl⟩ := map_eq_ok_iff.mp hpieces
      exact .of_figurePieces _ _ (Dataset.traces_ne_nil htable hview hfigure) (hshows.traces_selected hfigure) hform

/-- What is drawn of a view marks the rows of the selection it is drawn with. -/
theorem marks_html (hplain : ∀ c ∈ sheet.id.toList, Text.isIdChar c = true)
    (htable : sheet.dataset.results = .ok sheet.table) (hview : view ∈ sheet.table.views) {selection : Selection}
    {html : String} (hhtml : (board.visualOf sheet view).html selection = .ok html) :
    (board.visualOf sheet view).MarksJust sheet.dataset.records.length
      (selection.rows sheet.dataset.records.length) html := by
  have hcount : sheet.table.rowCount = sheet.dataset.records.length := Dataset.rowCount_of_results htable
  obtain ⟨plan, hplan, rfl⟩ := List.mem_map.mp hview
  have hvisual : (board.visualOf sheet (plan.on sheet.table)).container = sheet.id ++ "-" ++ plan.id := rfl
  have hcontainer : Text.escape (sheet.id ++ "-" ++ plan.id) = sheet.id ++ "-" ++ plan.id :=
    (escape_container hplain hview).2
  constructor
  · intro hform
    rw [← hvisual] at hcontainer
    rw [Visual.html_eq hcontainer, pieces_of_table htable hplan hform, hcount] at hhtml
    obtain rfl := Except.ok.inj hhtml
    have hpieces := scan_besideFigures (sheet.dataset.tablePieces (sheet.id ++ "-" ++ plan.id)
      (selection.rows sheet.dataset.records.length))
    rw [besideFigures_eq_self (sheet.dataset.figures_tablePieces _ _)] at hpieces
    rw [hpieces, sheet.dataset.rowMarks_tablePieces]
  · intro hform
    have hclosing : '>' ∉ (sheet.id ++ "-" ++ plan.id).toList := by
      rw [← hcontainer]
      exact fun hmem => plain_of_mem_escape hmem (by decide)
    rw [html_of_chart hform] at hhtml
    obtain ⟨figure, hfigure, hsame⟩ := bind_eq_ok_iff.mp hhtml
    obtain rfl := Except.ok.inj hsame
    rw [show (plan.on sheet.table).table = sheet.table from rfl, hcount] at hfigure
    exact ⟨_, figure.chartText?_html hclosing, Figure.marksIn_text (Dataset.traces_ne_nil htable hview hfigure)
      ((Dataset.shows_of_views htable _ hview).traces_selected hfigure)⟩

section Slots

variable (hplain : ∀ c ∈ sheet.id.toList, Text.isIdChar c = true)
  (htable : sheet.dataset.results = .ok sheet.table) (dataset : String) (selection : Selection)
include hplain htable

/-- The slot of a view that is drawn shows its visualization, and that of any other view shows none. -/
theorem marked_slotPieces (hview : view ∈ sheet.table.views) :
    Marked sheet.dataset.records.length (selection.rows sheet.dataset.records.length)
      (if (board.drawing sheet view).isOk then [board.visualOf sheet view] else [])
      (board.slotPieces sheet dataset selection view) := by
  apply Marked.around (by decide)
  have halike := failAlike_pieces hplain hview board selection
  rw [bodyPieces]
  cases hpieces : board.pieces (board.visualOf sheet view) selection with
  | ok pieces =>
    obtain ⟨html, hhtml⟩ := halike.isOk hpieces
    rw [drawing, hhtml]
    exact marked_pieces htable hview hpieces
  | error fault =>
    rw [drawing, halike.error hpieces]
    exact .of_plain (by simp [Piece.words]) rfl

/-- A panel marks the rows of the selection it is drawn with, in each of the visualizations it shows. -/
theorem marked_panelPieces (hidden : Bool) :
    Marked sheet.dataset.records.length (selection.rows sheet.dataset.records.length)
      (board.drawnOf sheet sheet.table.views) (board.panelPieces dataset sheet selection hidden) := by
  have hdrawn : board.drawnOf sheet sheet.table.views = sheet.table.views.flatMap fun view =>
      if (board.drawing sheet view).isOk then [board.visualOf sheet view] else [] := by
    rw [drawnOf]
    induction sheet.table.views with
    | nil => rfl
    | cons view rest ih =>
      rw [List.flatMap_cons, ← ih, List.filter_cons]
      split <;> rfl
  have hheading : Marked sheet.dataset.records.length (selection.rows sheet.dataset.records.length) []
      (Panel.headingPieces dataset) := .of_plain ((speaks_headingPieces dataset).not_mem (by decide)) rfl
  have hwarnings : Marked sheet.dataset.records.length (selection.rows sheet.dataset.records.length) []
      (Panel.warningPieces sheet.table.warnings) := by
    refine .of_plain ((speaks_warningPieces _).not_mem (by decide)) ?_
    rw [warningPieces_eq]
    split
    next => rfl
    next => rw [figures_element, figures_items]
  rw [hdrawn]
  apply Marked.around (by decide)
  exact (hheading.append hwarnings).append
    (.flatMap fun view hview => marked_slotPieces hplain htable dataset selection hview)

end Slots

end Board

end CodecReport
