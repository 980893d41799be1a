import CodecReport.Proofs.Panel.Marks
import CodecReport.Proofs.Panel.Refreshing
import Mathlib.Data.List.Sort

/-!
# What a panel marks after it is drawn again

Selections change in many ways, and the elements of a panel only when it is drawn again. On a working board the panel
marks after that, in each of its elements, the rows that the visualization of that element has selected: those that
its dataset has, in increasing order. There is nothing left then for drawing once more to change.
-/

namespace CodecReport

open Markup

theorem Workbook.mem_of_find {book : Workbook} {name : String} {sheet : Sheet} (hfind : book.find name = .ok sheet) :
    (name, sheet) ∈ book := by
  rw [find] at hfind
  cases hfound : Entries.get? book name with
  | none =>
    rw [hfound] at hfind
    cases hfind
  | some found =>
    rw [hfound] at hfind
    cases hfind
    obtain ⟨before, rest, rfl, _⟩ := List.lookup_eq_some_iff.mp hfound
    exact List.mem_append_right _ List.mem_cons_self

namespace Board

variable {book : Workbook} {width aspect : Double} {board later : Board}

/-! ### What is on show -/

/-- The dataset that is on show. -/
def dataset? (board : Board) : Option String :=
  board.current.map Panel.dataset

theorem redraw_dataset? (board : Board) : board.redraw.2.dataset? = board.dataset? := by
  rw [redraw, dataset?, dataset?]
  cases hcurrent : board.current with
  | none => exact congrArg _ hcurrent
  | some panel => rfl

/-- All that is on show are visualizations of the dataset whose panel it is. -/
def Presents (book : Workbook) (board : Board) : Prop :=
  ∀ dataset ∈ board.dataset?, ∃ sheet, (dataset, sheet) ∈ book ∧
    ∀ m ∈ board.shown, ∃ view ∈ sheet.table.views, board.visuals[m]? = some (board.visualOf sheet view)

theorem Presents.of_kept (h : Presents book board) (hdataset : later.dataset? = board.dataset?)
    (hshown : later.shown = board.shown) (hvisuals : later.visuals = board.visuals)
    (hheight : later.height = board.height) : Presents book later := by
  have hvisual (sheet : Sheet) (view : View) : later.visualOf sheet view = board.visualOf sheet view := by
    rw [visualOf, visualOf, hheight]
  simp only [Presents, hdataset, hshown, hvisuals, hvisual]
  exact h

theorem Presents.of_depicts {dataset : String} {sheet : Sheet} {selection : Selection}
    (h : board.Depicts dataset sheet selection) (hsheet : (dataset, sheet) ∈ book) : Presents book board := by
  obtain ⟨slots, hcurrent, hslots⟩ := h.current
  intro found hfound
  rw [dataset?, hcurrent] at hfound
  obtain rfl := Option.some.inj hfound
  refine ⟨sheet, hsheet, fun m hm => ?_⟩
  rw [shown, hcurrent] at hm
  obtain ⟨slot, hslot, hvisual⟩ := List.mem_filterMap.mp hm
  obtain ⟨view, hview, _, _, hplaced⟩ := exists_of_mem_forall₂ hslots hslot
  exact ⟨view, hview, hplaced m hvisual⟩

theorem Presents.after (h : Presents book board) (hsound : Sound board) (hbook : board.book ⊆ book) (move : Move) :
    Presents book (board.after move) := by
  cases move with
  | render dataset =>
    rw [after_render]
    cases hfind : board.book.find dataset with
    | error fault =>
      rw [render_of_find_error hfind]
      exact h
    | ok sheet =>
      obtain ⟨shown, hrender, _, _, hdepicts⟩ := hsound.render_depicts hfind
      rw [hrender]
      exact .of_depicts hdepicts (hbook (Workbook.mem_of_find hfind))
  | clear => exact fun _ hdataset => nomatch hdataset
  | redraw =>
    rw [after_redraw]
    exact h.of_kept (redraw_dataset? board) (redraw_shown board) (redraw_visuals board) (sameFrame_redraw board).height
  | select m selection =>
    rw [hsound.after_select]
    exact h.of_kept rfl rfl rfl rfl
  | broadcast m selection =>
    rw [hsound.after_broadcast]
    exact h.of_kept rfl rfl rfl rfl
  | unlisten m event => cases event <;> exact h.of_kept rfl rfl rfl rfl
  | assign | listen | teardown | spoil | mend => exact h.of_kept rfl rfl rfl rfl

/-- Datasets are only forgotten. -/
theorem Reached.book_subset (hreached : Reached book width aspect board) : board.book ⊆ book := by
  induction hreached with
  | blank => exact List.Subset.refl _
  | move hreached move ih =>
    rw [after_book]
    split
    · exact List.nil_subset _
    · exact ih
  | failing _ broken ih => exact ih

theorem Reached.presents (hreached : Reached book width aspect board) : Presents book board := by
  induction hreached with
  | blank => exact fun _ hdataset => nomatch hdataset
  | move hreached move ih => exact ih.after hreached.sound hreached.book_subset move
  | failing _ broken ih => exact ih.of_kept rfl rfl rfl rfl

/-! ### Drawing once more -/

theorem htmlOf_eq_some_iff {m : MemberId} {html : String} : board.htmlOf m = some html ↔
    ∃ visual, board.visuals[m]? = some visual ∧ visual.html (board.selectionOf m) = .ok html := by
  rw [htmlOf, Option.bind_eq_some_iff]
  refine exists_congr fun visual => and_congr_right fun _ => ?_
  cases visual.html (board.selectionOf m) with
  | error fault =>
    refine iff_of_false ?_ ?_
    · rintro ⟨⟩
    · rintro ⟨⟩
  | ok element => exact Option.some_inj.trans (Except.ok.injEq element html).symm.to_iff

theorem UpToDate.of_kept {slot : Slot} (h : board.UpToDate slot) (hvisuals : later.visuals = board.visuals)
    (hnetwork : later.network = board.network) : later.UpToDate slot := by
  have hhtml (m : MemberId) : later.htmlOf m = board.htmlOf m := by
    rw [htmlOf, htmlOf, hvisuals, selectionOf, selectionOf, hnetwork]
  rw [UpToDate] at h ⊢
  simp only [hhtml]
  exact h

theorem failing?_of_working (hworking : ∀ visual, board.broken visual = none) (slot : Slot) :
    board.failing? slot = none := by
  simp only [failing?, hworking, Option.bind_fun_none]

theorem redrawSlot_upToDate {slot : Slot} (hcurrent : board.UpToDate slot) (hworks : board.failing? slot = none) :
    board.redrawSlot slot = .ok slot := by
  obtain ⟨container, viewId, _ | _⟩ := slot
  case failed => rfl
  case drawn m html =>
    obtain ⟨visual, hvisual, hhtml⟩ := htmlOf_eq_some_iff.mp ((upToDate_drawn rfl).mp hcurrent)
    have hbroken : board.broken visual = none := by
      rw [failing?, Slot.visual?, Option.bind_some, hvisual, Option.bind_some] at hworks
      exact hworks
    simp only [redrawSlot, hvisual, draw_eq_ok_iff.mpr ⟨hbroken, hhtml⟩]
    rfl

theorem redrawSlots_upToDate {slots : List Slot} (hcurrent : ∀ slot ∈ slots, board.UpToDate slot)
    (hworks : ∀ slot ∈ slots, board.failing? slot = none) : board.redrawSlots slots = (none, slots) := by
  induction slots with
  | nil => rfl
  | cons slot rest ih =>
    obtain ⟨hfirst, hrest⟩ := List.forall_mem_cons.mp hcurrent
    obtain ⟨hfirstWorks, hrestWorks⟩ := List.forall_mem_cons.mp hworks
    rw [redrawSlots, redrawSlot_upToDate hfirst hfirstWorks, ih hrest hrestWorks]

/-- A panel that is up to date and works is drawn again as it is. -/
theorem redraw_upToDate (hcurrent : ∀ slot ∈ board.slots, board.UpToDate slot)
    (hworks : ∀ slot ∈ board.slots, board.failing? slot = none) : board.redraw = (.ok (), board) := by
  rw [redraw]
  cases hpanel : board.current with
  | none => rfl
  | some panel =>
    have hslots : board.slots = panel.slots := by
      rw [slots, hpanel]
      rfl
    have hsame : { board with current := some panel } = board := by rw [← hpanel]
    simp only [← hslots, redrawSlots_upToDate hcurrent hworks]
    rw [hslots, hsame]

/-! ### What is marked -/

/-- On a working board drawing again does not fail, and brings all of the panel up to date. -/
theorem Reached.upToDate_after_redraw (hreached : Reached book width aspect board)
    (hworking : ∀ visual, board.broken visual = none) :
    board.reply .redraw = .ok .done ∧ ∀ slot ∈ (board.after .redraw).slots, (board.after .redraw).UpToDate slot := by
  obtain ⟨hslots, hreply⟩ := redraw_eq board
  obtain ⟨fresh, hfresh, hall⟩ := redrawSlots_append hreached.drawable (fun _ hslot => hslot)
    (fun slot _ => failing?_of_working hworking slot) []
  rw [List.append_nil] at hall
  rw [hall] at hslots hreply
  refine ⟨hreply, fun slot hslot => ?_⟩
  rw [hslots, redrawSlots, List.append_nil] at hslot
  obtain ⟨_, _, hrefreshes⟩ := exists_of_mem_forall₂ hfresh hslot
  rw [after_redraw]
  exact hrefreshes.upToDate.of_kept (redraw_visuals board) (redraw_network board)

/-- Whatever was done with a board, and whatever selections were made on it: where nothing fails, drawing again marks
in all that is on show just the rows that the dataset has and that are selected then, in increasing order. Drawing once
more changes nothing. -/
theorem Reached.redraw_marks_selected {document : Document} (hnames : (Entries.keys document).Nodup)
    (hbook : Workbook.ofDocument document = .ok book) (hreached : Reached book width aspect board)
    (hworking : ∀ visual, board.broken visual = none) :
    let redrawn := board.after .redraw
    (board.reply .redraw = .ok .done ∧ redrawn.dataset? = board.dataset? ∧ redrawn.shown = board.shown ∧
      ∀ m, redrawn.selectionOf m = board.selectionOf m) ∧
    (∀ dataset ∈ redrawn.dataset?, ∃ ds, (dataset, ds) ∈ document ∧
      ∀ slot ∈ redrawn.slots, ∀ m html, slot.content = .drawn m html →
        ∃ visual rows, redrawn.visuals[m]? = some visual ∧ rows.Pairwise (· < ·) ∧
          (∀ r, r ∈ rows ↔ r < ds.records.length ∧ ∃ pick ∈ redrawn.selectionOf m, pick.row = some (r : Int)) ∧
          visual.MarksJust ds.records.length rows html) ∧
    redrawn.reply .redraw = .ok .done ∧ redrawn.after .redraw = redrawn := by
  intro redrawn
  obtain ⟨hreply, hcurrent⟩ := hreached.upToDate_after_redraw hworking
  have hredrawn : redrawn = board.redraw.2 := after_redraw board
  have hagain : Reached book width aspect redrawn := hreached.move .redraw
  have hredrawnWorking : ∀ visual, redrawn.broken visual = none := by
    rw [hredrawn, (sameFrame_redraw board).broken]
    exact hworking
  refine ⟨⟨hreply, ?_, ?_, fun m => ?_⟩, fun dataset hdataset => ?_, ?_⟩
  · rw [hredrawn, redraw_dataset?]
  · rw [hredrawn, redraw_shown]
  · rw [hredrawn, selectionOf, selectionOf, redraw_network]
  · obtain ⟨sheet, hsheet, hvisuals⟩ := hagain.presents dataset hdataset
    obtain ⟨hdatasets, hresults⟩ := Workbook.results_of_isSheetOf (Workbook.forall₂_isSheetOf hbook)
    have hplain := (Workbook.Numbered.of_document hnames hbook).isIdChar_of_mem hsheet
    refine ⟨sheet.dataset, hdatasets ▸ List.mem_map_of_mem hsheet, fun slot hslot m html hcontent => ?_⟩
    obtain ⟨view, hview, hvisual⟩ := hvisuals m (mem_shown_of_drawn hslot hcontent)
    obtain ⟨found, hfound, hhtml⟩ := htmlOf_eq_some_iff.mp ((upToDate_drawn hcontent).mp (hcurrent slot hslot))
    obtain rfl := Option.some.inj (hvisual.symm.trans hfound)
    refine ⟨_, _, hvisual, ?_, fun r => Selection.mem_rows, marks_html hplain (hresults _ hsheet) hview hhtml⟩
    exact List.pairwise_lt_range.filter _
  · have hdone := redraw_upToDate hcurrent fun slot _ => failing?_of_working hredrawnWorking slot
    refine ⟨(hagain.upToDate_after_redraw hredrawnWorking).1, ?_⟩
    rw [after_redraw]
    exact congrArg Prod.snd hdone

/-- A document with one dataset of three records. -/
def threeRecords : Document :=
  let record (codec : String) : Measurement :=
    ⟨"p", codec, Double.ofInt 512, Double.ofInt 1, Double.ofInt 1, none, none⟩
  [("d", ⟨"d", Double.ofInt 1024, [record "a", record "b", record "c"]⟩)]

/-- Of rows that repeat, come in no order and lie outside of the table, those of the table are marked. -/
theorem redraw_marks_selected_threeRecords :
    let picks : Selection := [⟨some 2, none⟩, ⟨none, some 1⟩, ⟨some (-1), none⟩, ⟨some 0, none⟩, ⟨some 7, none⟩,
      ⟨some 2, none⟩]
    ∃ book, Workbook.ofDocument threeRecords = .ok book ∧
      let board := (blank book defaultWidth defaultAspect).play [.render "d", .select 0 picks]
      let redrawn := board.after .redraw
      redrawn.after .redraw = redrawn ∧ redrawn.shown.length = 6 ∧
        ∀ slot ∈ redrawn.slots, ∀ m html, slot.content = .drawn m html →
          ∃ visual, redrawn.visuals[m]? = some visual ∧ visual.MarksJust 3 [0, 2] html := by
  intro picks
  have hbook : Workbook.ofDocument threeRecords = .ok ((Workbook.ofDocument threeRecords).toOption.getD []) :=
    eq_ok_getD_of_isOk (by decide +kernel) []
  refine ⟨_, hbook, ?_⟩
  intro board redrawn
  have hreached : Reached _ defaultWidth defaultAspect board := Reached.blank.play _
  have hkept : ∀ move ∈ [Move.render "d", .select 0 picks], ¬ move.Reframes := by simp [Move.Reframes]
  have hworking : ∀ visual, board.broken visual = none := by
    have hframe : SameFrame (blank _ defaultWidth defaultAspect) board := (Sound.blank ..).play_sameFrame hkept
    rw [hframe.broken]
    exact fun _ => rfl
  obtain ⟨_, hmarks, _, hagain⟩ := hreached.redraw_marks_selected (by decide) hbook hworking
  have hdataset : redrawn.dataset? = some "d" := by decide +kernel
  have hselections : ∀ m ∈ redrawn.shown, redrawn.selectionOf m = picks := by decide +kernel
  refine ⟨hagain, by decide +kernel, fun slot hslot m html hcontent => ?_⟩
  obtain ⟨ds, hds, hslots⟩ := hmarks "d" hdataset
  obtain ⟨visual, rows, hfound, hincreasing, hrows, hmarked⟩ := hslots slot hslot m html hcontent
  cases List.mem_singleton.mp hds
  have hm : m ∈ redrawn.shown := mem_shown_of_drawn hslot hcontent
  obtain rfl : rows = [0, 2] := by
    refine List.Pairwise.eq_of_mem_iff hincreasing (by decide) fun r => (hrows r).trans ?_
    rw [hselections m hm]
    simp [picks]
    omega
  exact ⟨visual, hfound, hmarked⟩

end Board

end CodecReport
