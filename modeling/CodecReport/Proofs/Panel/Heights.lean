import CodecReport.Proofs.Panel.Refreshing
import CodecReport.Proofs.Panel.Wording

/-!
# Heights of charts

What a dataset holds never keeps a view from being drawn, and neither does what is selected. The one thing that can
is a height that no figure has: then all charts of a panel fail, whatever they show, and the table does not.
-/

namespace CodecReport

/-- A chart can have this height: zero, which fixes none, or a number with a whole part that is large enough. -/
def Double.IsChartHeight (height : Double) : Prop :=
  height.isZero = true ∨ ∃ whole ∈ height.truncate?, ChartOptions.leastHeight ≤ whole

instance : DecidablePred Double.IsChartHeight :=
  fun _ => inferInstanceAs (Decidable (_ ∨ _))

namespace ChartOptions

/-- The height that options give is one that a chart can have. -/
theorem exists_height_iff {options : ChartOptions} {height : Double}
    (hgiven : Entries.get? options "height" = some (.float height)) :
    (∃ fixed, ChartOptions.height options = .ok fixed) ↔ height.IsChartHeight := by
  rw [ChartOptions.height, hgiven, Double.IsChartHeight]
  cases hzero : height.isZero with
  | true => simp [Value.truthy, hzero]
  | false =>
    cases htruncate : height.truncate? with
    | none => cases height <;> simp_all [Value.truthy, Value.toInt]
    | some whole =>
      have hwhole : Value.toInt (.float height) = .ok whole := by
        cases height with
        | finite negative units h => simp only [Value.toInt, htruncate]
        | _ => cases htruncate
      simp only [Value.truthy, hzero, hwhole]
      by_cases hleast : whole < leastHeight
      · simp [hleast, Int.not_le.mpr hleast]
      · simp [hleast, Int.not_lt.mp hleast]

end ChartOptions

/-- What a standard view fixes about its axes can be told, whatever height is given beside it. -/
theorem Figure.settled_standard {plan : ViewPlan} (hplan : plan ∈ ViewPlan.standard) (height : Value) :
    Settled (Entries.put "height" height plan.options) := by
  simp only [ViewPlan.standard, List.mem_cons, List.not_mem_nil, or_false] at hplan
  rcases hplan with rfl | rfl | rfl | rfl | rfl | rfl <;> exact ⟨⟨_, rfl⟩, ⟨_, rfl⟩, ⟨_, rfl⟩, ⟨_, rfl⟩⟩

/-- Of a standard chart the height alone decides whether there is a figure. -/
theorem Figure.exists_withLayout_iff {plan : ViewPlan} (hplan : plan ∈ ViewPlan.standard) (height : Double)
    (title : String) (traces : List Trace) (categories : Option (List String)) :
    (∃ figure, withLayout title (Entries.put "height" (.float height) plan.options) traces categories = .ok figure) ↔
      height.IsChartHeight := by
  obtain ⟨⟨_, hhorizontal⟩, ⟨_, hvertical⟩, ⟨_, hhorizontalZero⟩, ⟨_, hverticalZero⟩⟩ :=
    Figure.settled_standard hplan (.float height)
  rw [← ChartOptions.exists_height_iff (Entries.get?_put_self "height" (.float height) plan.options)]
  rw [withLayout, hhorizontal, hvertical, hhorizontalZero, hverticalZero]
  exact exists_bind_pure_ok_iff

theorem Dataset.exists_figure_iff {ds : Dataset} {table : Table} (htable : ds.results = .ok table) {plan : ViewPlan}
    (hplan : plan ∈ ViewPlan.standard) (hchart : plan.form ≠ .table) (height : Double) (selected : List Nat) :
    (∃ figure, Visual.figure plan.form (plan.on table) (Entries.put "height" (.float height) plan.options) selected =
      .ok figure) ↔ height.IsChartHeight := by
  have hshows := shows_of_views htable (plan.on table) (List.mem_map_of_mem hplan)
  rcases hshows.form with hform | hform | hform
  · exact absurd hform hchart
  · obtain ⟨_, _, _, hbars⟩ := hshows.bars hform
    rw [show plan.form = .bar from hform, hbars]
    exact Figure.exists_withLayout_iff hplan height ..
  · obtain ⟨_, _, _, _, _, hpoints⟩ := hshows.points hform
    obtain ⟨_, hfigure⟩ := hpoints (Entries.put "height" (.float height) plan.options) selected
    rw [show plan.form = .scatter from hform, hfigure]
    exact Figure.exists_withLayout_iff hplan height ..

namespace Board

/-- The view of a slot, if it could not be drawn. -/
def failure? (slot : Slot) : Option String :=
  slot.notice?.map fun _ => slot.viewId

/-- The views on show that could not be drawn. -/
def failed (board : Board) : List String :=
  board.slots.filterMap failure?

/-- The standard views that are charts. -/
def chartIds : List String :=
  ["ratio", "speed", "ratio_vs_compress_speed", "ratio_vs_decompress_speed", "speed_compare"]

section Drawing

variable {board : Board} {sheet : Sheet} {dataset : String}

/-- A table is always drawn, and a chart just if it can have the height. -/
theorem exists_draw_iff (htable : sheet.dataset.results = .ok sheet.table)
    (hworking : ∀ visual, board.broken visual = none) {plan : ViewPlan} (hplan : plan ∈ ViewPlan.standard)
    (selection : Selection) :
    (∃ html, board.draw (board.visualOf sheet (plan.on sheet.table)) selection = .ok html) ↔
      (plan.form ≠ .table → board.height.IsChartHeight) := by
  have hshows := Dataset.shows_of_views htable (plan.on sheet.table) (List.mem_map_of_mem hplan)
  rw [draw, hworking]
  by_cases hform : plan.form = .table
  · have hvisual : (board.visualOf sheet (plan.on sheet.table)).form = .table := hform
    have helement := hshows.element hform (sheet.id ++ "-" ++ plan.id) (selection.rows sheet.table.rowCount)
    rw [Visual.html, hvisual]
    exact iff_of_true ⟨_, helement⟩ fun hchart => absurd hform hchart
  · have hoptions : (board.visualOf sheet (plan.on sheet.table)).options =
        Entries.put "height" (.float board.height) plan.options := if_neg hform
    have hfigure := Dataset.exists_figure_iff htable hplan hform board.height (selection.rows sheet.table.rowCount)
    rw [html_of_chart hform, hoptions, forall_prop_of_true hform, ← hfigure]
    exact exists_bind_pure_ok_iff

theorem failure?_slotOf (htable : sheet.dataset.results = .ok sheet.table)
    (hworking : ∀ visual, board.broken visual = none) {plan : ViewPlan} (hplan : plan ∈ ViewPlan.standard)
    (selection : Selection) (m : MemberId) :
    failure? (board.slotOf sheet dataset selection m (plan.on sheet.table)) =
      if plan.form ≠ .table → board.height.IsChartHeight then none else some plan.id := by
  have hdrawn := exists_draw_iff htable hworking hplan selection
  rw [failure?, slotOf, Slot.notice?]
  cases hdraw : board.draw (board.visualOf sheet (plan.on sheet.table)) selection with
  | ok html => exact (if_pos (hdrawn.mp ⟨html, hdraw⟩)).symm
  | error fault =>
    refine (if_neg fun hheight => ?_).symm
    obtain ⟨html, hhtml⟩ := hdrawn.mpr hheight
    cases hdraw.symm.trans hhtml

/-- On a working board that shows a dataset no view fails, or just the charts do. -/
theorem failed_of_depicts (htable : sheet.dataset.results = .ok sheet.table)
    (hworking : ∀ visual, board.broken visual = none) {selection : Selection}
    (hdepicts : board.Depicts dataset sheet selection) :
    board.failed = if board.height.IsChartHeight then [] else chartIds := by
  obtain ⟨slots, hcurrent, hslots⟩ := hdepicts.current
  have hfailures : board.failed = ViewPlan.standard.filterMap fun plan =>
      if plan.form ≠ .table → board.height.IsChartHeight then none else some plan.id := by
    have hplans {plans : List ViewPlan} (hstandard : ∀ plan ∈ plans, plan ∈ ViewPlan.standard) {slots : List Slot}
        (hslots : List.Forall₂ (fun plan => board.Shows sheet dataset selection (plan.on sheet.table)) plans slots) :
        slots.filterMap failure? = plans.filterMap fun plan =>
          if plan.form ≠ .table → board.height.IsChartHeight then none else some plan.id := by
      induction hslots with
      | nil => rfl
      | cons hshows _ ih =>
        obtain ⟨hplan, hrest⟩ := List.forall_mem_cons.mp hstandard
        obtain ⟨m, rfl, _⟩ := hshows
        rw [List.filterMap_cons, List.filterMap_cons, failure?_slotOf htable hworking hplan, ih hrest]
    rw [failed, Board.slots, hcurrent, Option.map_some, Option.getD_some]
    exact hplans (fun _ hplan => hplan) (List.forall₂_map_left_iff.mp hslots)
  rw [hfailures]
  split
  next hheight => simp only [hheight, implies_true, if_true, List.filterMap_none]
  next hheight =>
    simp only [hheight]
    decide

end Drawing

theorem Reached.height_eq {book : Workbook} {width aspect : Double} {board : Board}
    (hreached : Reached book width aspect board) : board.height = width * aspect := by
  induction hreached with
  | blank => rfl
  | @move board hreached move ih =>
    obtain ⟨hwidth, haspect⟩ := hreached.sound.after_scale move
    rw [height, hwidth, haspect]
    exact ih
  | failing _ broken ih => exact ih

/-- The panel of a dataset fails with the views that the height tells, on whatever board it is shown. -/
theorem Reached.failed_after_render {book : Workbook} {width aspect : Double} {board : Board}
    (hreached : Reached book width aspect board) (hworking : ∀ visual, board.broken visual = none) {dataset : String}
    {sheet : Sheet} (hfind : board.book.find dataset = .ok sheet) (htable : sheet.dataset.results = .ok sheet.table) :
    board.reply (.render dataset) = .ok (.shown (board.after (.render dataset)).shown) ∧
      (board.after (.render dataset)).failed = if (width * aspect).IsChartHeight then [] else chartIds := by
  obtain ⟨shown, hrender, _, hframe, hdepicts⟩ := hreached.sound.render_depicts hfind
  have hshownWorking : ∀ visual, shown.broken visual = none := by
    rw [hframe.broken]
    exact hworking
  rw [reply_render, after_render, hrender, failed_of_depicts htable hshownWorking hdepicts, hframe.height,
    hreached.height_eq]
  exact ⟨rfl, rfl⟩

/-- Whatever two datasets hold that have results, and whatever was done before with the boards that show them: on
boards on which nothing is made to fail, charts of the same height fail for both or for neither. They fail all
together, just where they cannot have that height, and the table never does. -/
theorem render_fails_by_height {book otherBook : Workbook} {width aspect otherWidth otherAspect : Double}
    {board other : Board} (hreached : Reached book width aspect board)
    (hother : Reached otherBook otherWidth otherAspect other) (hworking : ∀ visual, board.broken visual = none)
    (hotherWorking : ∀ visual, other.broken visual = none) {dataset otherDataset : String} {sheet otherSheet : Sheet}
    (hfind : board.book.find dataset = .ok sheet) (hotherFind : other.book.find otherDataset = .ok otherSheet)
    (htable : sheet.dataset.results = .ok sheet.table)
    (hotherTable : otherSheet.dataset.results = .ok otherSheet.table) :
    let shown := board.after (.render dataset)
    let otherShown := other.after (.render otherDataset)
    (board.reply (.render dataset) = .ok (.shown shown.shown) ∧
      other.reply (.render otherDataset) = .ok (.shown otherShown.shown)) ∧
    (width * aspect = otherWidth * otherAspect → shown.failed = otherShown.failed) ∧
    (shown.failed = [] ∨ shown.failed = chartIds) ∧ "table" ∉ shown.failed ∧
    (shown.failed = [] ↔ (width * aspect).IsChartHeight) := by
  intro shown otherShown
  obtain ⟨hreply, hfailed⟩ := hreached.failed_after_render hworking hfind htable
  obtain ⟨hotherReply, hotherFailed⟩ := hother.failed_after_render hotherWorking hotherFind hotherTable
  refine ⟨⟨hreply, hotherReply⟩, fun hheight => ?_, ?_⟩
  · exact hfailed.trans (hheight ▸ hotherFailed.symm)
  · have hcases : shown.failed = [] ∧ (width * aspect).IsChartHeight ∨
        shown.failed = chartIds ∧ ¬ (width * aspect).IsChartHeight := by
      by_cases hheight : (width * aspect).IsChartHeight
      · exact .inl ⟨hfailed.trans (if_pos hheight), hheight⟩
      · exact .inr ⟨hfailed.trans (if_neg hheight), hheight⟩
    rcases hcases with ⟨hnone, hheight⟩ | ⟨hcharts, hheight⟩
    · rw [hnone]
      exact ⟨.inl rfl, List.not_mem_nil, iff_of_true rfl hheight⟩
    · rw [hcharts]
      exact ⟨.inr rfl, by decide, iff_of_false (by decide) hheight⟩

/-- A dataset with speeds that are not finite and one without records, in charts of height nine. -/
theorem render_fails_by_height_nine : ∃ table, Dataset.oneInstant.results = .ok table ∧
    let board := blank [("d", ⟨Dataset.oneInstant, table, "ds0-d"⟩)] (Double.ofInt 16) defaultAspect
    let other := blank withoutRecords (Double.ofInt 9) (Double.ofInt 1)
    (board.after (.render "d")).failed = chartIds ∧ (other.after (.render "d")).failed = chartIds := by
  obtain ⟨table, htable⟩ := Dataset.exists_results_oneInstant
  refine ⟨table, htable, ?_⟩
  intro board other
  have hnine : Double.ofInt 16 * defaultAspect = Double.ofInt 9 * Double.ofInt 1 := by decide +kernel
  have hlow : ¬ (Double.ofInt 16 * defaultAspect).IsChartHeight := by decide +kernel
  have hboard : Reached board.book (Double.ofInt 16) defaultAspect board := .blank
  have hother : Reached withoutRecords (Double.ofInt 9) (Double.ofInt 1) other := .blank
  have hfind : board.book.find "d" = .ok ⟨Dataset.oneInstant, table, "ds0-d"⟩ := rfl
  obtain ⟨sheet, hotherFind, hotherTable⟩ :
      ∃ sheet, other.book.find "d" = .ok sheet ∧ sheet.dataset.results = .ok sheet.table := ⟨_, rfl, rfl⟩
  obtain ⟨_, hsame, hcases, _, hnone⟩ := render_fails_by_height hboard hother (fun _ => rfl) (fun _ => rfl)
    hfind hotherFind htable hotherTable
  have hcharts : (board.after (.render "d")).failed = chartIds :=
    hcases.resolve_left fun hempty => hlow (hnone.mp hempty)
  exact ⟨hcharts, (hsame hnine).symm.trans hcharts⟩

end Board

end CodecReport
