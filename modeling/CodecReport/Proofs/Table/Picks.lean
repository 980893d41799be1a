import CodecReport.Table.View
import CodecReport.Proofs.Table.Records

/-!
# What views pick

A view picks columns of its table by position. Over a results table, what it picks is again what some
functions give for the records in their order, and so is its frame: picking neither drops nor moves a cell.
-/

namespace CodecReport

theorem atPosition?_map {α β : Type} (f : α → β) (items : List α) (position : Int) :
    atPosition? (items.map f) position = (atPosition? items position).map f := by
  simp only [atPosition?, List.length_map, List.getElem?_map]
  rw [apply_ite (Option.map f), Option.map_none]

theorem mem_of_atPosition? {α : Type} {items : List α} {position : Int} {a : α}
    (hfound : atPosition? items position = some a) : a ∈ items := by
  simp only [atPosition?] at hfound
  generalize (if position < 0 then position + items.length else position) = index at hfound
  by_cases hlow : index < 0
  · rw [if_pos hlow] at hfound
    cases hfound
  · rw [if_neg hlow] at hfound
    exact List.mem_of_getElem? hfound

theorem fillGaps_of_forall {cells : List Value} (hfilled : ∀ cell ∈ cells, isGap cell = false) :
    fillGaps cells = cells := by
  rw [fillGaps]
  split
  · have hkeep : ∀ cell ∈ cells, (if isGap cell then Value.float .nan else cell) = cell := by
      intro cell hcell
      rw [hfilled cell hcell]
      rfl
    rw [List.map_congr_left hkeep, List.map_id']
  · rfl

theorem fillGaps_floats {cells : List Value} (hfloats : ∀ cell ∈ cells, ∃ d, cell = .float d) :
    fillGaps cells = cells := by
  have hno : isTextColumn cells = false := by
    rw [isTextColumn]
    cases hfilled : cells.filter (!isGap ·) with
    | nil => rfl
    | cons first rest =>
      have hmem : first ∈ cells.filter (!isGap ·) := hfilled ▸ List.mem_cons_self
      obtain ⟨d, rfl⟩ := hfloats first (List.mem_filter.mp hmem).1
      rfl
  rw [fillGaps, hno]
  rfl

namespace Dataset

variable {ds : Dataset} {table : Table}

/-- The column that a reference picks, with its cell for a record. -/
def pick (ds : Dataset) (ref : ColumnRef) : Option (Column × (Measurement → Value)) :=
  atPosition? ds.recordColumns ref.column

/-- What references show of a record, under the keys of a view. -/
def pickedCells (ds : Dataset) (refs : List ColumnRef) : Entries (Measurement → Value) :=
  refs.filterMap fun ref => (ds.pick ref).map fun (column, cell) => (ref.key column, cell)

theorem resolve_of_pick (hcolumns : table.columns = resultColumns) {ref : ColumnRef} {column : Column}
    {cell : Measurement → Value} (hpick : ds.pick ref = some (column, cell)) :
    ref.resolve table = .ok column := by
  have hposition : atPosition? resultColumns ref.column = some column := by
    rw [← recordColumns_fst ds, atPosition?_map]
    rw [pick] at hpick
    rw [hpick]
    rfl
  rw [ColumnRef.resolve, hcolumns, hposition]

theorem mem_recordColumns_of_pick {ref : ColumnRef} {found : Column × (Measurement → Value)}
    (hpick : ds.pick ref = some found) : found ∈ ds.recordColumns :=
  mem_of_atPosition? hpick

theorem fillGaps_of_mem {found : Column × (Measurement → Value)} (hfound : found ∈ ds.recordColumns) :
    fillGaps (ds.records.map found.2) = ds.records.map found.2 := by
  rcases List.mem_append.mp hfound with htext | hnumber
  · apply fillGaps_of_forall
    intro cell hcell
    obtain ⟨m, _, rfl⟩ := List.mem_map.mp hcell
    simp only [List.mem_cons, List.not_mem_nil, or_false] at htext
    rcases htext with rfl | rfl <;> rfl
  · apply fillGaps_floats
    intro cell hcell
    obtain ⟨m, _, rfl⟩ := List.mem_map.mp hcell
    obtain ⟨q, _, rfl⟩ := List.mem_map.mp hnumber
    exact ⟨_, rfl⟩

theorem cells_of_mem (htable : ds.results = .ok table) {found : Column × (Measurement → Value)}
    (hfound : found ∈ ds.recordColumns) :
    table.frame.get? found.1.name = some (ds.records.map found.2) := by
  obtain ⟨rfl, _⟩ := results_eq_ok htable
  exact Frame.get?_ofRecords ds.records ds.nodup_recordCells (List.mem_map_of_mem hfound)

theorem map_fst_pick (ds : Dataset) (ref : ColumnRef) :
    (ds.pick ref).map Prod.fst = atPosition? resultColumns ref.column := by
  rw [pick, ← atPosition?_map, recordColumns_fst]

theorem pickedCells_cons {ref : ColumnRef} {column : Column} {cell : Measurement → Value}
    (hpick : ds.pick ref = some (column, cell)) (rest : List ColumnRef) :
    ds.pickedCells (ref :: rest) = (ref.key column, cell) :: ds.pickedCells rest := by
  rw [pickedCells, List.filterMap_cons, hpick]
  rfl

/-- References that all pick a column, under keys that do not repeat. -/
structure Pickable (ds : Dataset) (refs : List ColumnRef) : Prop where
  picked : ∀ ref ∈ refs, (ds.pick ref).isSome
  nodup : (ds.pickedCells refs).keys.Nodup

theorem keys_pickedCells (refs : List ColumnRef) : (ds.pickedCells refs).keys =
    refs.filterMap fun ref => (atPosition? resultColumns ref.column).map ref.key := by
  rw [Entries.keys, pickedCells, List.map_filterMap]
  refine List.filterMap_congr fun ref _ => ?_
  rw [← map_fst_pick ds, Option.map_map, Option.map_map]
  rfl

/-- The references of the standard views name the columns that results tables have. -/
theorem pickable_standard (ds : Dataset) {plan : ViewPlan} (hplan : plan ∈ ViewPlan.standard) :
    ds.Pickable plan.refs := by
  have hpicked : ∀ plan ∈ ViewPlan.standard, ∀ ref ∈ plan.refs,
      (atPosition? resultColumns ref.column).isSome := by
    decide
  have hnodup : ∀ plan ∈ ViewPlan.standard,
      (plan.refs.filterMap fun ref => (atPosition? resultColumns ref.column).map ref.key).Nodup := by
    decide
  constructor
  · intro ref href
    rw [← Option.isSome_map (f := Prod.fst), map_fst_pick]
    exact hpicked plan hplan ref href
  · rw [keys_pickedCells]
    exact hnodup plan hplan

theorem resolveAll_of_picked (htable : ds.results = .ok table) {refs : List ColumnRef}
    (hpicked : ∀ ref ∈ refs, (ds.pick ref).isSome) :
    refs.mapM (·.resolve table) = .ok (refs.filterMap fun ref => (ds.pick ref).map Prod.fst) := by
  have hcolumns : table.columns = resultColumns := by
    obtain ⟨rfl, _⟩ := results_eq_ok htable
    rfl
  induction refs with
  | nil => rfl
  | cons ref rest ih =>
    obtain ⟨⟨column, cell⟩, hpick⟩ := Option.isSome_iff_exists.mp (hpicked ref List.mem_cons_self)
    have hrest := ih fun other hother => hpicked other (List.mem_cons_of_mem _ hother)
    rw [List.mapM_cons, resolve_of_pick hcolumns hpick, hrest, List.filterMap_cons, hpick]
    rfl

/-- The frame of a view is made of the records, as the frame of its table is. -/
theorem frame_of_pickable (htable : ds.results = .ok table) {view : View} (hview : view.table = table)
    (hrefs : ds.Pickable view.refs) :
    view.frame = .ok (.ofRecords ds.records (ds.pickedCells view.refs)) := by
  have hstep : ∀ refs : List ColumnRef, (∀ ref ∈ refs, (ds.pick ref).isSome) →
      refs.mapM (fun ref => do
        let column ← ref.resolve view.table
        return (ref.key column, fillGaps ((view.table.frame.get? column.name).getD []))) =
      Except.ok (ε := Fault) (Frame.ofRecords ds.records (ds.pickedCells refs)) := by
    intro refs hpicked
    have hcolumns : table.columns = resultColumns := by
      obtain ⟨rfl, _⟩ := results_eq_ok htable
      rfl
    induction refs with
    | nil => rfl
    | cons ref rest ih =>
      obtain ⟨⟨column, cell⟩, hpick⟩ := Option.isSome_iff_exists.mp (hpicked ref List.mem_cons_self)
      have hmem := mem_recordColumns_of_pick hpick
      have hrest := ih fun other hother => hpicked other (List.mem_cons_of_mem _ hother)
      rw [List.mapM_cons, hrest, hview, resolve_of_pick hcolumns hpick, pickedCells_cons hpick]
      simp only [cells_of_mem htable hmem, Option.getD_some, fillGaps_of_mem hmem, bind, Except.bind]
      rfl
  have hnodup : (Entries.keys (Frame.ofRecords ds.records (ds.pickedCells view.refs))).Nodup := by
    rw [Frame.keys_ofRecords]
    exact hrefs.nodup
  rw [View.frame, hstep view.refs hrefs.picked]
  exact congrArg Except.ok (Entries.ofList_of_nodup hnodup)

end Dataset

end CodecReport
