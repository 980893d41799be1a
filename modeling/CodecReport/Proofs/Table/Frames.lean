import CodecReport.Chart.Visual
import CodecReport.Proofs.Outcome
import CodecReport.Proofs.Table.Picks
import Mathlib.Data.List.Nodup

/-!
# Frames of views

A frame is put together under keys made of names, while the columns of a view, their roles and the rows of a
results table go by position. Both sides agree because keys do not repeat: a tooltip's key carries a suffix
that no name ends with, so it tells the column and the role of the reference it was made for. Then position
`j` means the same column everywhere, in the frame, in the columns of the view and in each row that is shown.
-/

namespace CodecReport

/-! ### What a frame has for the cells of a column -/

/-- Cells that are texts, one at least, with nothing between them but what is missing. -/
def TextColumn (cells : List Value) : Prop :=
  (∃ s, Value.text s ∈ cells) ∧ ∀ cell ∈ cells, cell = .null ∨ cell = .float .nan ∨ ∃ s, cell = .text s

/-- A cell, or what is not a number in the place of a missing one. -/
def Value.orNan : Value → Value
  | .null => .float .nan
  | cell => cell

/-- In a column of texts what is missing is not a number; any other column has its own cells. -/
structure HeldAs (cells held : List Value) : Prop where
  texts : TextColumn cells → held = cells.map Value.orNan
  others : ¬TextColumn cells → held = cells

theorem isGap_iff {cell : Value} : isGap cell = true ↔ cell = .null ∨ cell = .float .nan := by
  unfold isGap
  split <;> simp_all

theorem not_isGap_text (s : String) : isGap (.text s) = false := rfl

theorem isTextColumn_iff {cells : List Value} : isTextColumn cells = true ↔ TextColumn cells := by
  have hfilled : ∀ cell, cell ∈ cells.filter (!isGap ·) ↔ cell ∈ cells ∧ isGap cell = false := by
    simp
  rw [isTextColumn, Bool.and_eq_true, Bool.not_eq_true', List.all_eq_true]
  constructor
  · rintro ⟨hsome, htexts⟩
    have htext : ∀ cell ∈ cells, isGap cell = false → ∃ s, cell = .text s := by
      intro cell hcell hgap
      have hshown := htexts cell ((hfilled cell).mpr ⟨hcell, hgap⟩)
      cases cell with
      | text s => exact ⟨s, rfl⟩
      | _ => cases hshown
    constructor
    · rw [List.isEmpty_eq_false_iff_exists_mem] at hsome
      obtain ⟨cell, hmem⟩ := hsome
      obtain ⟨hcell, hgap⟩ := (hfilled cell).mp hmem
      obtain ⟨s, rfl⟩ := htext cell hcell hgap
      exact ⟨s, hcell⟩
    · intro cell hcell
      cases hgap : isGap cell with
      | true => exact (isGap_iff.mp hgap).imp_right .inl
      | false => exact .inr (.inr (htext cell hcell hgap))
  · rintro ⟨⟨s, hs⟩, hcells⟩
    constructor
    · rw [List.isEmpty_eq_false_iff_exists_mem]
      exact ⟨.text s, (hfilled _).mpr ⟨hs, not_isGap_text s⟩⟩
    · intro cell hmem
      obtain ⟨hcell, hgap⟩ := (hfilled cell).mp hmem
      rcases hcells cell hcell with rfl | rfl | ⟨s, rfl⟩
      · cases hgap
      · cases hgap
      · rfl

theorem heldAs_fillGaps (cells : List Value) : HeldAs cells (fillGaps cells) where
  texts := by
    intro htexts
    rw [fillGaps, if_pos (isTextColumn_iff.mpr htexts)]
    apply List.map_congr_left
    intro cell hcell
    rcases htexts.2 cell hcell with rfl | rfl | ⟨s, rfl⟩ <;> rfl
  others := by
    intro hother
    rw [fillGaps, if_neg (mt isTextColumn_iff.mp hother)]

theorem length_fillGaps (cells : List Value) : (fillGaps cells).length = cells.length := by
  rw [fillGaps]
  split
  · exact List.length_map _
  · rfl

/-! ### Keys -/

/-- A table whose frame has the cells of every column, one for each row, under names that tell the columns apart
and cannot be taken for the keys of tooltips. -/
structure Table.Sound (t : Table) : Prop where
  names : t.columnNames.Nodup
  plain : ∀ column ∈ t.columns, ¬tooltipSuffix.toList <:+ column.name.toList
  held : ∀ column ∈ t.columns, ∃ cells, t.frame.get? column.name = some cells ∧ cells.length = t.rowCount

/-- The cells of a column as frames of views have them. -/
def Table.heldCells (t : Table) (column : Column) : List Value :=
  fillGaps ((t.frame.get? column.name).getD [])

theorem Table.Sound.heldAs_heldCells {t : Table} (ht : t.Sound) {column : Column} (hcolumn : column ∈ t.columns) :
    ∃ cells, t.frame.get? column.name = some cells ∧ HeldAs cells (t.heldCells column) ∧
      (t.heldCells column).length = t.rowCount := by
  obtain ⟨cells, hcells, hlength⟩ := ht.held column hcolumn
  rw [heldCells, hcells, Option.getD_some, length_fillGaps]
  exact ⟨cells, rfl, heldAs_fillGaps cells, hlength⟩

namespace ColumnRef

theorem resolve_eq_ok_iff {t : Table} {ref : ColumnRef} {column : Column} :
    ref.resolve t = .ok column ↔ atPosition? t.columns ref.column = some column := by
  rw [resolve]
  cases atPosition? t.columns ref.column <;> simp

/-- A key tells the column and the role of its reference. -/
theorem key_inj {t : Table} (ht : t.Sound) {ref other : ColumnRef} {column found : Column}
    (hcolumn : column ∈ t.columns) (hfound : found ∈ t.columns) (hkey : ref.key column = other.key found) :
    column = found ∧ ref.role = other.role := by
  have hnames : column.name = found.name → column = found :=
    List.inj_on_of_nodup_map ht.names hcolumn hfound
  have hsuffix : ∀ first ∈ t.columns, ∀ second : Column, first.name ≠ second.name ++ tooltipSuffix := by
    intro first hfirst second hsame
    apply ht.plain first hfirst
    rw [hsame, String.toList_append]
    exact List.suffix_append _ _
  unfold key at hkey
  cases hrole : ref.role <;> cases hother : other.role <;> rw [hrole, hother] at hkey
  case data.data => exact ⟨hnames hkey, rfl⟩
  case data.tooltip => exact absurd hkey (hsuffix column hcolumn found)
  case tooltip.data => exact absurd hkey.symm (hsuffix found hfound column)
  case tooltip.tooltip =>
    refine ⟨hnames ?_, rfl⟩
    have hchars := congrArg String.toList hkey
    rw [String.toList_append, String.toList_append] at hchars
    exact String.toList_inj.mp (List.append_cancel_right hchars)

end ColumnRef

/-! ### Views -/

namespace View

variable {v : View} {columns : List Column}

/-- A view of such a table with references that all designate a column, none of them twice in one role. -/
structure Sound (v : View) : Prop where
  table : v.table.Sound
  nonempty : v.refs ≠ []
  valid : ∀ ref ∈ v.refs, (atPosition? v.table.columns ref.column).isSome
  distinct : (v.refs.map fun ref => (atPosition? v.table.columns ref.column, ref.role)).Nodup

/-- Different references by positions counted from the beginning designate different columns or roles. -/
theorem Sound.of_positions (htable : v.table.Sound) (hne : v.refs ≠ []) (hrefs : v.refs.Nodup)
    (hvalid : ∀ ref ∈ v.refs, 0 ≤ ref.column ∧ ref.column < v.table.columns.length) : v.Sound := by
  have hat : ∀ ref ∈ v.refs, ∃ h : ref.column.toNat < v.table.columns.length,
      atPosition? v.table.columns ref.column = v.table.columns[ref.column.toNat] := by
    intro ref href
    obtain ⟨hlow, hhigh⟩ := hvalid ref href
    have hlt : ref.column.toNat < v.table.columns.length := by omega
    refine ⟨hlt, ?_⟩
    simp only [atPosition?, if_neg (Int.not_lt.mpr hlow)]
    exact List.getElem?_eq_getElem hlt
  have hcolumns : v.table.columns.Nodup := List.Nodup.of_map _ htable.names
  refine ⟨htable, hne, ?_, ?_⟩
  · intro ref href
    obtain ⟨_, hfound⟩ := hat ref href
    rw [hfound]
    rfl
  · apply hrefs.map_on
    intro ref href other hother hsame
    obtain ⟨hlt, hfound⟩ := hat ref href
    obtain ⟨hlt', hfound'⟩ := hat other hother
    rw [hfound, hfound', Prod.mk.injEq, Option.some.injEq, hcolumns.getElem_inj_iff] at hsame
    obtain ⟨hposition, hrole⟩ := hsame
    have hcolumn : ref.column = other.column := by
      have hlow := (hvalid ref href).1
      have hlow' := (hvalid other hother).1
      omega
    cases ref
    cases other
    simp_all

/-- The columns that references designate, one after the other. -/
def Designates (v : View) (columns : List Column) : Prop :=
  List.Forall₂ (fun ref column => atPosition? v.table.columns ref.column = some column) v.refs columns

/-- The frame of a view as its references and their columns give it. -/
def pickedFrame (v : View) (columns : List Column) : Frame :=
  (v.refs.zip columns).map fun picked => (picked.1.key picked.2, v.table.heldCells picked.2)

theorem exists_designates (hv : v.Sound) : ∃ columns, v.Designates columns := by
  rw [show (∃ columns, v.Designates columns) ↔ _ from exists_forall₂_iff]
  intro ref href
  exact Option.isSome_iff_exists.mp (hv.valid ref href)

namespace Designates

theorem columns_eq (h : v.Designates columns) : v.columns = .ok columns := by
  rw [View.columns, resolveAll, mapM_eq_ok_iff]
  exact h.imp fun _ _ => ColumnRef.resolve_eq_ok_iff.mpr

theorem atPosition?_of_mem (h : v.Designates columns) {picked : ColumnRef × Column}
    (hpicked : picked ∈ v.refs.zip columns) : atPosition? v.table.columns picked.1.column = some picked.2 :=
  (List.forall₂_iff_zip.mp h).2 hpicked

theorem mem_columns (h : v.Designates columns) {picked : ColumnRef × Column}
    (hpicked : picked ∈ v.refs.zip columns) : picked.2 ∈ v.table.columns :=
  mem_of_atPosition? (h.atPosition?_of_mem hpicked)

theorem map_fst_zip (h : v.Designates columns) : (v.refs.zip columns).map Prod.fst = v.refs :=
  List.map_fst_zip (Nat.le_of_eq h.length_eq)

theorem map_snd_zip (h : v.Designates columns) : (v.refs.zip columns).map Prod.snd = columns :=
  List.map_snd_zip (Nat.le_of_eq h.length_eq.symm)

theorem nodup_keys (h : v.Designates columns) (hv : v.Sound) : (v.pickedFrame columns).keys.Nodup := by
  have hpairs : ((v.refs.zip columns).map fun picked => (some picked.2, picked.1.role)).Nodup := by
    have hsame : (v.refs.map fun ref => (atPosition? v.table.columns ref.column, ref.role)) =
        (v.refs.zip columns).map fun picked => (some picked.2, picked.1.role) := by
      conv_lhs => rw [← h.map_fst_zip, List.map_map]
      apply List.map_congr_left
      intro picked hpicked
      rw [Function.comp_apply, h.atPosition?_of_mem hpicked]
    rw [← hsame]
    exact hv.distinct
  rw [Entries.keys, View.pickedFrame, List.map_map, List.Nodup, List.pairwise_map]
  rw [List.Nodup, List.pairwise_map] at hpairs
  -- a key tells its reference only among columns of the table, so the pairs have to be members
  apply List.Pairwise.imp_of_mem _ hpairs
  intro first second hfirst hsecond hne hkey
  apply hne
  obtain ⟨hcolumn, hrole⟩ := ColumnRef.key_inj hv.table (h.mem_columns hfirst) (h.mem_columns hsecond) hkey
  rw [hcolumn, hrole]

/-- Keys do not repeat, so the frame has the picked columns in the order of the references. -/
theorem frame_eq (h : v.Designates columns) (hv : v.Sound) : v.frame = .ok (v.pickedFrame columns) := by
  have hpicked : v.refs.mapM (fun ref => do
      let column ← ref.resolve v.table
      return (ref.key column, fillGaps ((v.table.frame.get? column.name).getD []))) =
      Except.ok (ε := Fault) (v.pickedFrame columns) := by
    rw [mapM_eq_ok_iff]
    conv in v.refs => rw [← h.map_fst_zip]
    rw [View.pickedFrame, List.forall₂_map_left_iff, List.forall₂_map_right_iff, List.forall₂_same]
    intro picked hmem
    rw [ColumnRef.resolve_eq_ok_iff.mpr (h.atPosition?_of_mem hmem)]
    rfl
  rw [View.frame, hpicked]
  exact congrArg Except.ok (Entries.ofList_of_nodup (h.nodup_keys hv))

theorem resolveAll_filter (h : v.Designates columns) (keep : ColumnRef → Bool) :
    v.resolveAll (v.refs.filter keep) =
      .ok (((v.refs.zip columns).filter fun picked => keep picked.1).map Prod.snd) := by
  have hrefs : v.refs.filter keep =
      ((v.refs.zip columns).filter fun picked => keep picked.1).map Prod.fst := by
    conv_lhs => rw [← h.map_fst_zip, List.filter_map]
    rfl
  rw [resolveAll, hrefs, mapM_eq_ok_iff, List.forall₂_map_left_iff, List.forall₂_map_right_iff, List.forall₂_same]
  intro picked hpicked
  exact ColumnRef.resolve_eq_ok_iff.mpr (h.atPosition?_of_mem (List.mem_filter.mp hpicked).1)

theorem cells_held (h : v.Designates columns) (ht : v.table.Sound) :
    List.Forall₂ (fun column entry => ∃ cells, v.table.frame.get? column.name = some cells ∧
      HeldAs cells entry.2 ∧ entry.2.length = v.table.rowCount) columns (v.pickedFrame columns) := by
  conv in columns => rw [← h.map_snd_zip]
  rw [View.pickedFrame, List.forall₂_map_left_iff, List.forall₂_map_right_iff, List.forall₂_same]
  intro picked hpicked
  exact ht.heldAs_heldCells (h.mem_columns hpicked)

theorem rowCount_eq (h : v.Designates columns) (hv : v.Sound) :
    (v.pickedFrame columns).rowCount = v.table.rowCount := by
  have hlength : (v.pickedFrame columns).length = v.refs.length := by
    rw [View.pickedFrame, List.length_map, ← List.length_map Prod.fst, h.map_fst_zip]
  have hcells := h.cells_held hv.table
  cases hframe : v.pickedFrame columns with
  | nil =>
    rw [hframe] at hlength
    exact absurd (List.length_eq_zero_iff.mp hlength.symm) hv.nonempty
  | cons entry rest =>
    rw [hframe] at hcells
    cases hcells with
    | cons hfirst _ =>
      obtain ⟨_, _, _, hrows⟩ := hfirst
      exact hrows

end Designates

end View

/-! ### Rows on display -/

namespace Visual

/-- The texts of the row at a position, each cell in the form of its column. -/
def rowTexts (columns : List Column) (frame : Frame) (i : Nat) : Except Fault (List String) :=
  (frame.zip columns).mapM fun (entry, column) => cellText column.kind (entry.2.getD i .null)

def rowOf (selected : List Nat) (index : Nat) (texts : List String) : String :=
  "<tr data-row=\"" ++ toString index ++ "\""
    ++ (if selected.contains index then " class=\"selected\"" else "") ++ ">"
    ++ String.join (texts.map fun text => "<td>" ++ text ++ "</td>") ++ "</tr>"

def tableOf (container : String) (columns : List Column) (rows : List String) : String :=
  "<table id=\"" ++ container ++ "\" class=\"results-table\"><thead><tr>" ++ headHtml columns
    ++ "</tr></thead><tbody>" ++ String.join rows ++ "</tbody></table>"

theorem rowHtml_frameRow (columns : List Column) (frame : Frame) (selected : List Nat) (i : Nat) :
    rowHtml columns selected i (frame.row i) = rowOf selected i <$> rowTexts columns frame i := by
  have hcells : ∀ entry : Value × Column,
      (do return "<td>" ++ (← cellText entry.2.kind entry.1) ++ "</td>") =
        (fun text => "<td>" ++ text ++ "</td>") <$> cellText entry.2.kind entry.1 := by
    intro entry
    cases cellText entry.2.kind entry.1 <;> rfl
  have htexts : ((frame.row i).zip columns).mapM (fun entry => cellText entry.2.kind entry.1) =
      rowTexts columns frame i := by
    rw [Frame.row, List.zip_map_left, List.mapM_map]
    rfl
  have hrow := mapM_eq_map hcells ((frame.row i).zip columns)
  rw [htexts] at hrow
  rw [rowHtml]
  show (_ >>= _) = _
  rw [hrow]
  cases rowTexts columns frame i <;> rfl

theorem zipIdx_rows (frame : Frame) :
    frame.rows.zipIdx = (List.range frame.rowCount).map fun i => (frame.row i, i) := by
  rw [Frame.rows_eq_map]
  apply List.ext_getElem
  · simp
  · intro i hi hi'
    simp

/-- Row `i` of a results table is shown from the cells at `i` of the frame's columns, each in the form of the
view's column at the same position. -/
theorem tableHtml_eq_rows {view : View} {columns : List Column} {frame : Frame}
    (hcolumns : view.columns = .ok columns) (hframe : view.frame = .ok frame) (container : String)
    (selected : List Nat) : tableHtml container view selected =
      tableOf container columns <$> (List.range frame.rowCount).mapM fun i =>
        rowOf selected i <$> rowTexts columns frame i := by
  have hrows : (frame.rows.zipIdx.mapM fun row => rowHtml columns selected row.2 row.1) =
      (List.range frame.rowCount).mapM fun i => rowOf selected i <$> rowTexts columns frame i := by
    rw [zipIdx_rows, List.mapM_map]
    exact congrArg (List.mapM · _) (funext (rowHtml_frameRow columns frame selected))
  rw [tableHtml, hcolumns, hframe]
  show ((frame.rows.zipIdx.mapM fun row => rowHtml columns selected row.2 row.1) >>= fun rows =>
    pure (tableOf container columns rows)) = _
  rw [hrows]
  cases (List.range frame.rowCount).mapM fun i => rowOf selected i <$> rowTexts columns frame i <;> rfl

end Visual

namespace View

variable {v : View}

/-- Columns and a frame that a view has, one of each for every reference and in the order of the references. -/
structure Aligned (v : View) (columns : List Column) (frame : Frame) : Prop where
  hasColumns : v.columns = .ok columns
  hasFrame : v.frame = .ok frame
  designates : v.Designates columns
  keys : frame.keys = (v.refs.zip columns).map fun picked => picked.1.key picked.2
  nodup : frame.keys.Nodup
  cells : List.Forall₂ (fun column entry => ∃ cells, v.table.frame.get? column.name = some cells ∧
    HeldAs cells entry.2 ∧ entry.2.length = v.table.rowCount) columns frame
  rowCount : frame.rowCount = v.table.rowCount
  split : v.dataColumns = .ok (((v.refs.zip columns).partition (·.1.role == .data)).1.map Prod.snd) ∧
    v.tooltipColumns = .ok (((v.refs.zip columns).partition (·.1.role == .data)).2.map Prod.snd)
  shown : ∀ container selected, Visual.tableHtml container v selected =
    Visual.tableOf container columns <$> (List.range v.table.rowCount).mapM fun i =>
      Visual.rowOf selected i <$> Visual.rowTexts columns frame i

/-- Every part of a sound view goes by the references, position by position. -/
theorem exists_aligned (hv : v.Sound) : ∃ columns frame, v.Aligned columns frame := by
  obtain ⟨columns, hcolumns⟩ := exists_designates hv
  have hkeys : (v.pickedFrame columns).keys = (v.refs.zip columns).map fun picked => picked.1.key picked.2 := by
    rw [Entries.keys, View.pickedFrame, List.map_map]
    rfl
  have hcount := hcolumns.rowCount_eq hv
  refine ⟨columns, v.pickedFrame columns, hcolumns.columns_eq, hcolumns.frame_eq hv, hcolumns, hkeys,
    hcolumns.nodup_keys hv, hcolumns.cells_held hv.table, hcount, ⟨?_, ?_⟩, ?_⟩
  · rw [List.partition_eq_filter_filter]
    exact hcolumns.resolveAll_filter (·.role == .data)
  · have hrole : (fun picked : ColumnRef × Column => picked.1.role == .tooltip) =
        not ∘ fun picked => picked.1.role == .data := by
      funext picked
      simp only [Function.comp_apply]
      cases picked.1.role <;> rfl
    rw [List.partition_eq_filter_filter, ← hrole]
    exact hcolumns.resolveAll_filter (·.role == .tooltip)
  · intro container selected
    rw [← hcount]
    exact Visual.tableHtml_eq_rows hcolumns.columns_eq (hcolumns.frame_eq hv) container selected

/-- A view with a tooltip, a column counted from the end, and the column of the tooltip once more. -/
def pickedTwice : View where
  id := "v"
  form := .table
  title := "T"
  table := {
    dataset := "d"
    columns := [⟨"n", "Name", .text⟩, ⟨"x", "X", .number⟩]
    frame := [("n", [.text "a", .null]), ("x", [.float .nan, .float (.infinite false)])] }
  refs := [⟨0, .tooltip⟩, ⟨-1, .data⟩, ⟨0, .data⟩]

theorem pickedTwice_sound : pickedTwice.Sound where
  table := {
    names := by decide
    plain := by decide +kernel
    held := by
      intro column hcolumn
      simp only [pickedTwice, List.mem_cons, List.not_mem_nil, or_false] at hcolumn
      rcases hcolumn with rfl | rfl <;> exact ⟨_, rfl, rfl⟩ }
  nonempty := by decide
  valid := by decide
  distinct := by decide

theorem exists_aligned_pickedTwice : pickedTwice.Sound ∧
    ∃ columns frame, pickedTwice.Aligned columns frame ∧ frame.keys = ["n__tooltip", "x", "n"] := by
  obtain ⟨columns, frame, haligned⟩ := exists_aligned pickedTwice_sound
  have hframe : pickedTwice.frame = .ok
      [("n__tooltip", [.text "a", .float .nan]), ("x", [.float .nan, .float (.infinite false)]),
        ("n", [.text "a", .float .nan])] := rfl
  refine ⟨pickedTwice_sound, columns, frame, haligned, ?_⟩
  rw [Except.ok.inj (haligned.hasFrame.symm.trans hframe)]
  rfl

/-- A view of a column of texts in which one is missing. -/
def gapped : View where
  id := "v"
  form := .table
  title := "T"
  table := { dataset := "d", columns := [⟨"n", "Name", .text⟩], frame := [("n", [.text "a", .null])] }
  refs := [⟨0, .data⟩]

/-- The frame of a view does not always have the cells of its table as they are. -/
theorem frame_not_always_own_cells : gapped.Sound ∧
    ∃ columns frame, gapped.columns = .ok columns ∧ gapped.frame = .ok frame ∧
      ¬List.Forall₂ (fun column entry => gapped.table.frame.get? column.name = some entry.2) columns frame := by
  have htable : gapped.table.Sound := by
    refine ⟨by decide, by decide +kernel, ?_⟩
    intro column hcolumn
    obtain rfl := List.mem_singleton.mp hcolumn
    exact ⟨_, rfl, rfl⟩
  refine ⟨.of_positions htable (by decide) (by decide) (by decide), gapped.table.columns,
    [("n", [.text "a", .float .nan])], rfl, rfl, ?_⟩
  intro hcells
  cases hcells with
  | cons hfirst _ => cases hfirst

end View

end CodecReport
