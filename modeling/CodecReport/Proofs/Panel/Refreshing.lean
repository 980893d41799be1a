import CodecReport.Proofs.Panel.Frame
import CodecReport.Proofs.Panel.Isolation

/-!
# Drawing again where views fail

When a panel is shown, a failing view leaves the others alone. When it is drawn again after a selection, nothing
keeps the views apart: the slots are gone through in order up to the first one whose visualization fails, and
there drawing again is stopped. The slots before it show the current selections, and those behind it, failing or
not, what they showed before.
-/

namespace CodecReport.Board

/-- The element of a visualization with its current selection, as markup, if it can be drawn. -/
def htmlOf (board : Board) (m : MemberId) : Option String :=
  board.visuals[m]?.bind fun visual => (visual.html (board.selectionOf m)).toOption

/-- The message with which the visualization in a slot fails at this moment. -/
def failing? (board : Board) (slot : Slot) : Option String :=
  slot.visual?.bind fun m => board.visuals[m]?.bind board.broken

/-- The visualization in a slot is shown with its current selection. -/
def UpToDate (board : Board) (slot : Slot) : Prop :=
  match slot.content with
  | .drawn m html => board.htmlOf m = some html
  | .failed _ => True

instance (board : Board) : DecidablePred board.UpToDate := fun slot =>
  match hcontent : slot.content with
  | .drawn m html => decidable_of_iff (board.htmlOf m = some html) (by rw [UpToDate, hcontent])
  | .failed _ => .isTrue (by rw [UpToDate, hcontent]; trivial)

/-- The same slot, up to date. -/
structure Refreshes (board : Board) (slot fresh : Slot) : Prop where
  container : fresh.container = slot.container
  viewId : fresh.viewId = slot.viewId
  visual : fresh.visual? = slot.visual?
  upToDate : board.UpToDate fresh

variable {board : Board} {m : MemberId} {slot : Slot} {message : String}

theorem redraw_visuals (board : Board) : board.redraw.2.visuals = board.visuals := by
  rw [redraw]
  cases board.current <;> rfl

/-! ### What is on show can be drawn -/

/-- Everything that is on show can be drawn, unless it is made to fail. -/
def Drawable (board : Board) : Prop :=
  ∀ m ∈ board.shown, ∃ visual html, board.visuals[m]? = some visual ∧ visual.html [] = .ok html

namespace Drawable

theorem of_shows {sheet : Sheet} {dataset : String} {selection : Selection} {view : View}
    (h : board.Shows sheet dataset selection view slot) (hm : slot.visual? = some m) :
    ∃ visual html, board.visuals[m]? = some visual ∧ visual.html [] = .ok html := by
  obtain ⟨k, rfl, hvisual⟩ := h
  have hfound := hvisual m hm
  cases hdraw : board.draw (board.visualOf sheet view) selection with
  | error fault =>
    rw [slotOf, hdraw] at hm
    cases hm
  | ok element =>
    have halike := (board.visualOf sheet view).failAlike_html selection []
    obtain ⟨html, hhtml⟩ := halike.isOk (draw_eq_ok_iff.mp hdraw).2
    exact ⟨_, html, hfound, hhtml⟩

theorem of_depicts {dataset : String} {sheet : Sheet} {selection : Selection}
    (h : board.Depicts dataset sheet selection) : Drawable board := by
  obtain ⟨slots, hpanel, hslots⟩ := h.current
  intro m hm
  rw [shown, hpanel] at hm
  obtain ⟨slot, hslot, hvisual⟩ := List.mem_filterMap.mp hm
  obtain ⟨view, _, hshows⟩ := exists_of_mem_forall₂ hslots hslot
  exact of_shows hshows hvisual

theorem after (h : Drawable board) (hsound : Sound board) (move : Move) : Drawable (board.after move) := by
  cases move with
  | render dataset =>
    rw [after_render]
    cases hfind : board.book.find dataset with
    | error fault =>
      rw [render_of_find_error hfind]
      exact h
    | ok sheet =>
      obtain ⟨shown, hrender, _, _, hdepicts⟩ := hsound.render_depicts hfind
      rw [hrender]
      exact of_depicts hdepicts
  | clear => exact fun m hm => absurd hm List.not_mem_nil
  | redraw =>
    rw [after_redraw]
    intro m hm
    rw [redraw_shown] at hm
    rw [redraw_visuals]
    exact h m hm
  | select m selection =>
    rw [hsound.after_select]
    exact h
  | broadcast m selection =>
    rw [hsound.after_broadcast]
    exact h
  | unlisten m event => cases event <;> exact h
  | assign | listen | teardown | spoil | mend => exact h

end Drawable

theorem Reached.drawable {book : Workbook} {width aspect : Double} (hreached : Reached book width aspect board) :
    Drawable board := by
  induction hreached with
  | blank => exact fun m hm => absurd hm List.not_mem_nil
  | move hreached move ih => exact ih.after hreached.sound move
  | failing _ broken ih => exact ih

/-! ### Slots drawn again -/

theorem upToDate_drawn {html : String} (hslot : slot.content = .drawn m html) :
    board.UpToDate slot ↔ board.htmlOf m = some html := by
  rw [UpToDate, hslot]

theorem redrawSlot_failing (hfails : board.failing? slot = some message) :
    board.redrawSlot slot = .error (.foreign "RuntimeError" message) := by
  obtain ⟨m, hm, hbroken⟩ := Option.bind_eq_some_iff.mp hfails
  obtain ⟨visual, hvisual, hmessage⟩ := Option.bind_eq_some_iff.mp hbroken
  rw [Slot.visual?] at hm
  cases hcontent : slot.content with
  | failed notice =>
    rw [hcontent] at hm
    cases hm
  | drawn v html =>
    rw [hcontent] at hm
    obtain rfl := Option.some.inj hm
    rw [redrawSlot, hcontent]
    simp only [hvisual, draw, hmessage]
    rfl

/-- A slot whose visualization does not fail is brought up to date. -/
theorem redrawSlot_working (hdrawable : Drawable board) (hslot : slot ∈ board.slots)
    (hworks : board.failing? slot = none) :
    ∃ fresh, board.redrawSlot slot = .ok fresh ∧ board.Refreshes slot fresh := by
  cases hcontent : slot.content with
  | failed notice =>
    refine ⟨slot, ?_, rfl, rfl, rfl, ?_⟩
    · rw [redrawSlot, hcontent]
    · rw [UpToDate, hcontent]
      trivial
  | drawn m html =>
    have hm : slot.visual? = some m := by rw [Slot.visual?, hcontent]
    have hshown : m ∈ board.shown := by
      rw [shown_eq]
      exact List.mem_filterMap.mpr ⟨slot, hslot, hm⟩
    obtain ⟨visual, before, hvisual, hhtml⟩ := hdrawable m hshown
    obtain ⟨element, helement⟩ := (visual.failAlike_html [] (board.selectionOf m)).isOk hhtml
    have hbroken : board.broken visual = none := by
      rw [failing?, hm, Option.bind_some, hvisual, Option.bind_some] at hworks
      exact hworks
    have hdraw : board.draw visual (board.selectionOf m) = .ok element := draw_eq_ok_iff.mpr ⟨hbroken, helement⟩
    refine ⟨{ slot with content := .drawn m element }, ?_, rfl, rfl, hm.symm, ?_⟩
    · rw [redrawSlot, hcontent]
      simp only [hvisual, hdraw]
      rfl
    · rw [upToDate_drawn rfl, htmlOf, hvisual, Option.bind_some, helement]
      rfl

/-- Slots that do not fail are brought up to date, and drawing again goes on behind them. -/
theorem redrawSlots_append (hdrawable : Drawable board) {before : List Slot}
    (hslots : ∀ slot ∈ before, slot ∈ board.slots) (hworks : ∀ slot ∈ before, board.failing? slot = none)
    (rest : List Slot) :
    ∃ fresh, List.Forall₂ board.Refreshes before fresh ∧ board.redrawSlots (before ++ rest) =
      ((board.redrawSlots rest).1, fresh ++ (board.redrawSlots rest).2) := by
  induction before with
  | nil => exact ⟨[], .nil, rfl⟩
  | cons slot before ih =>
    obtain ⟨first, hfirst, hrefreshes⟩ :=
      redrawSlot_working hdrawable (hslots slot List.mem_cons_self) (hworks slot List.mem_cons_self)
    obtain ⟨fresh, hfresh, hrest⟩ := ih (fun other hother => hslots other (List.mem_cons_of_mem _ hother))
      fun other hother => hworks other (List.mem_cons_of_mem _ hother)
    refine ⟨first :: fresh, .cons hrefreshes hfresh, ?_⟩
    rw [List.cons_append, redrawSlots, hfirst, hrest]
    rfl

theorem redrawSlots_failing (hfails : board.failing? slot = some message) (rest : List Slot) :
    board.redrawSlots (slot :: rest) = (some (.foreign "RuntimeError" message), slot :: rest) := by
  rw [redrawSlots, redrawSlot_failing hfails]

theorem reply_redraw (board : Board) :
    board.reply .redraw = match board.redraw.1 with
      | .error fault => .error (.board fault)
      | .ok _ => .ok .done := by
  rw [reply, perform, Steps.runOn_map, refresh, Steps.runOn_bind_ok (Steps.runOn_get board)]
  rcases board.redraw with ⟨_ | _, _⟩ <;> rfl

theorem redraw_eq (board : Board) :
    (board.after .redraw).slots = (board.redrawSlots board.slots).2 ∧
      board.reply .redraw = match (board.redrawSlots board.slots).1 with
        | some fault => .error (.board fault)
        | none => .ok .done := by
  rw [after_redraw, reply_redraw, redraw]
  cases hcurrent : board.current with
  | none =>
    have hnone : board.slots = [] := by
      rw [slots, hcurrent]
      rfl
    rw [hnone]
    exact ⟨rfl, rfl⟩
  | some panel =>
    have hslots : board.slots = panel.slots := by
      rw [slots, hcurrent]
      rfl
    rw [hslots]
    refine ⟨rfl, ?_⟩
    simp only
    cases (board.redrawSlots panel.slots).1 <;> rfl

/-- Whatever was done with a board and whichever visualizations fail: drawing again changes nothing but the slots
of the panel. Where none on show fails, it brings all of them up to date. Otherwise it ends with the failure of the
first one that does, and has brought up to date the slots before that one; all others are as they were. -/
theorem redraw_stops {book : Workbook} {width aspect : Double} (hreached : Reached book width aspect board) :
    let redrawn := board.after .redraw
    (SameFrame board redrawn ∧ redrawn.network = board.network ∧ redrawn.visuals = board.visuals) ∧
    ((∀ slot ∈ board.slots, board.failing? slot = none) →
      board.reply .redraw = .ok .done ∧ List.Forall₂ board.Refreshes board.slots redrawn.slots) ∧
    ∀ before slot rest message, board.slots = before ++ slot :: rest →
      (∀ slot ∈ before, board.failing? slot = none) → board.failing? slot = some message →
        board.reply .redraw = .error (.board (.foreign "RuntimeError" message)) ∧
        ∃ fresh, redrawn.slots = fresh ++ slot :: rest ∧ List.Forall₂ board.Refreshes before fresh := by
  intro redrawn
  have hdrawable := hreached.drawable
  obtain ⟨hslots, hreply⟩ := redraw_eq board
  refine ⟨?_, fun hworks => ?_, fun before slot rest message hsplit hworks hfails => ?_⟩
  · rw [show redrawn = board.redraw.2 from after_redraw board]
    exact ⟨sameFrame_redraw board, redraw_network board, redraw_visuals board⟩
  · obtain ⟨fresh, hfresh, hall⟩ := redrawSlots_append hdrawable (fun _ hslot => hslot) hworks []
    rw [List.append_nil] at hall
    rw [hall] at hreply hslots
    refine ⟨hreply, ?_⟩
    rw [hslots, redrawSlots, List.append_nil]
    exact hfresh
  · have hbefore : ∀ slot ∈ before, slot ∈ board.slots := fun other hother => by
      rw [hsplit]
      exact List.mem_append_left _ hother
    obtain ⟨fresh, hfresh, hall⟩ := redrawSlots_append hdrawable hbefore hworks (slot :: rest)
    rw [← hsplit, redrawSlots_failing hfails] at hall
    rw [hall] at hreply hslots
    exact ⟨hreply, fresh, hslots, hfresh⟩

/-- The workbook of a document with one dataset of one record. -/
def oneRecord : Workbook :=
  let record : Measurement := ⟨"p", "c", Double.ofInt 512, Double.ofInt 1, Double.ofInt 1, none, none⟩
  (Workbook.ofDocument [("d", ⟨"d", Double.ofInt 1024, [record]⟩)]).toOption.getD []

/-- The bar charts fail after a row was selected, the first of them in the second slot. -/
def barsFail : Board :=
  (blank oneRecord defaultWidth defaultAspect).play
    [.render "d", .select 0 [⟨some 0, none⟩], .spoil .bar "boom"]

theorem reached_barsFail : Reached oneRecord defaultWidth defaultAspect barsFail :=
  Reached.blank.play _

theorem redraw_stops_barsFail :
    barsFail.reply .redraw = .error (.board (.foreign "RuntimeError" "boom")) ∧
      ∃ before rest fresh, before.length = 1 ∧ barsFail.slots = before ++ rest ∧
        (barsFail.after .redraw).slots = fresh ++ rest ∧ List.Forall₂ barsFail.Refreshes before fresh := by
  have hlength : barsFail.slots.length = 6 := by decide +kernel
  have htable : ∀ slot ∈ barsFail.slots.take 1, barsFail.failing? slot = none := by decide +kernel
  have hbars : (barsFail.slots.drop 1).head?.bind barsFail.failing? = some "boom" := by decide +kernel
  obtain ⟨_, _, hstops⟩ := redraw_stops reached_barsFail
  cases hrest : barsFail.slots.drop 1 with
  | nil =>
    rw [hrest] at hbars
    cases hbars
  | cons slot rest =>
    rw [hrest] at hbars
    have hsplit : barsFail.slots = barsFail.slots.take 1 ++ slot :: rest := by
      rw [← hrest, List.take_append_drop]
    obtain ⟨hreply, fresh, hslots, hfresh⟩ := hstops _ slot rest "boom" hsplit htable hbars
    refine ⟨hreply, _, slot :: rest, fresh, ?_, hsplit, hslots, hfresh⟩
    rw [List.length_take, hlength]
    rfl

/-- Behind the failing bar charts the scatter charts, which do not fail, are left with the selection before the
last one, while the table shows the last one. -/
theorem redraw_mixes_selections :
    Reached oneRecord defaultWidth defaultAspect barsFail ∧
      (∃ slot ∈ (barsFail.after .redraw).slots, slot.viewId = "table" ∧
        barsFail.failing? slot = none ∧ (barsFail.after .redraw).UpToDate slot) ∧
      ∃ slot ∈ (barsFail.after .redraw).slots, slot.viewId = "speed_compare" ∧
        barsFail.failing? slot = none ∧ ¬ (barsFail.after .redraw).UpToDate slot :=
  ⟨reached_barsFail, by decide +kernel, by decide +kernel⟩

end CodecReport.Board
