import CodecReport.Proofs.Panel.Depiction
import CodecReport.Proofs.Panel.Membership

/-!
# Views that fail

Any of the views may fail to be drawn, for whatever reason and whatever was done with the board before. The
slot of such a view says so in its place; the other slots are those of a board on which nothing fails, and
what was drawn, and only that, belongs to the group and shares its selections.
-/

namespace CodecReport.Board

/-- The boards that moves lead to from a blank one, when at any time any visualizations begin or cease to
fail. -/
inductive Reached (book : Workbook) (width aspect : Double) : Board → Prop
  | blank : Reached book width aspect (blank book width aspect)
  | move {board : Board} (hreached : Reached book width aspect board) (move : Move) :
    Reached book width aspect (board.after move)
  | failing {board : Board} (hreached : Reached book width aspect board)
    (broken : Visual → Option String) : Reached book width aspect { board with broken }

theorem Reached.sound {book : Workbook} {width aspect : Double} {board : Board}
    (hreached : Reached book width aspect board) : Sound board := by
  induction hreached with
  | blank => exact .blank book width aspect
  | move _ move ih => exact ih.after move
  | failing _ broken ih => exact ⟨ih.gathered, ih.recorded, ih.declared⟩

theorem Reached.play {book : Workbook} {width aspect : Double} {board : Board}
    (hreached : Reached book width aspect board) (moves : List Move) :
    Reached book width aspect (board.play moves) := by
  induction moves generalizing board with
  | nil => exact hreached
  | cons move rest ih => exact ih (hreached.move move)

/-- The slots of the panel on show; none when nothing is. -/
def slots (board : Board) : List Slot := (board.current.map Panel.slots).getD []

theorem shown_eq (board : Board) : board.shown = board.slots.filterMap Slot.visual? := by
  rw [shown, slots]
  cases board.current <;> rfl

theorem mem_shown_of_drawn {board : Board} {slot : Slot} (hslot : slot ∈ board.slots) {m : MemberId} {html : String}
    (hcontent : slot.content = .drawn m html) : m ∈ board.shown := by
  rw [shown_eq]
  refine List.mem_filterMap.mpr ⟨slot, hslot, ?_⟩
  rw [Slot.visual?, hcontent]

variable {board : Board} {sheet : Sheet} {dataset : String}

/-- What drawing a view without a selection ends with. -/
def drawing (board : Board) (sheet : Sheet) (view : View) : Except Fault String :=
  board.draw (board.visualOf sheet view) []

theorem draw_eq_ok_iff {visual : Visual} {selection : Selection} {html : String} :
    board.draw visual selection = .ok html ↔
      board.broken visual = none ∧ visual.html selection = .ok html := by
  rw [draw]
  cases board.broken visual with
  | none => simp
  | some message => simp

/-- A view that is drawn is drawn alike on a board on which nothing fails. -/
theorem drawing_mend {view : View} {html : String} (hdrawn : board.drawing sheet view = .ok html) :
    (board.after .mend).drawing sheet view = .ok html := by
  have hvisual : (board.after .mend).visualOf sheet view = board.visualOf sheet view := rfl
  rw [drawing, hvisual]
  rw [drawing] at hdrawn
  exact draw_eq_ok_iff.mpr ⟨rfl, (draw_eq_ok_iff.mp hdrawn).2⟩

/-- What the slot of a view holds: the element of the view, or the notice that it could not be drawn. -/
structure Holds (board : Board) (sheet : Sheet) (dataset : String) (view : View) (slot : Slot) : Prop where
  container : slot.container = sheet.id ++ "-" ++ view.id
  viewId : slot.viewId = view.id
  drawn : ∀ html, board.drawing sheet view = .ok html → ∃ m, slot.content = .drawn m html
  failed : ∀ fault, board.drawing sheet view = .error fault → ∃ notice, slot.content = .failed notice ∧
    notice.message = "failed to draw " ++ view.id ++ ": " ++ fault.message ∧
    notice.context = [("dataset", .text dataset), ("view", .text view.id)] ∧
    slot.body = "<p class=\"render-error\">" ++ Text.escape (view.title ++ " could not be drawn.") ++ "</p>"

theorem holds_slotOf (board : Board) (sheet : Sheet) (dataset : String) (m : MemberId) (view : View) :
    board.Holds sheet dataset view (board.slotOf sheet dataset [] m view) where
  container := rfl
  viewId := rfl
  drawn html hdrawn := by
    rw [drawing] at hdrawn
    refine ⟨m, ?_⟩
    rw [slotOf, hdrawn]
  failed fault hfailed := by
    rw [drawing] at hfailed
    refine ⟨Panel.failure dataset view fault, ?_, rfl, rfl, ?_⟩
    · rw [slotOf, hfailed]
    · rw [slotOf, hfailed]
      rfl

theorem Shows.holds {shown : Board} (hframe : SameFrame board shown) {view : View} {slot : Slot}
    (hshows : shown.Shows sheet dataset [] view slot) : board.Holds sheet dataset view slot := by
  obtain ⟨m, rfl, _⟩ := hshows
  rw [hframe.slotOf]
  exact holds_slotOf board sheet dataset m view

/-- The slots of views that are drawn do not change when nothing else fails. -/
theorem Shows.html_mend {shown whole : Board} (hframe : SameFrame board shown)
    (hwhole : SameFrame (board.after .mend) whole) {view : View} {slot other : Slot}
    (hslot : shown.Shows sheet dataset [] view slot) (hother : whole.Shows sheet dataset [] view other)
    (hdrawn : slot.visual?.isSome) : slot.html = other.html := by
  obtain ⟨m, rfl, _⟩ := hslot
  obtain ⟨k, rfl, _⟩ := hother
  rw [hframe.slotOf] at hdrawn ⊢
  rw [hwhole.slotOf]
  cases hdraw : board.drawing sheet view with
  | error fault =>
    rw [drawing] at hdraw
    rw [slotOf, hdraw] at hdrawn
    cases hdrawn
  | ok html =>
    have hmend := drawing_mend hdraw
    rw [drawing] at hdraw hmend
    rw [slotOf, slotOf, hdraw, hmend]
    rfl

/-- What is drawn of views, in their order. -/
def drawnOf (board : Board) (sheet : Sheet) (views : List View) : List Visual :=
  (views.filter fun view => (board.drawing sheet view).isOk).map (board.visualOf sheet)

/-- Whether a view is drawn does not depend on what is selected. -/
theorem visuals_of_shows {shown : Board} (hframe : SameFrame board shown) {selection : Selection}
    {views : List View} {slots : List Slot}
    (hshows : List.Forall₂ (shown.Shows sheet dataset selection) views slots) :
    (slots.filterMap Slot.visual?).map (shown.visuals[·]?) = (board.drawnOf sheet views).map some := by
  induction hshows with
  | nil => rfl
  | @cons view slot views slots hfirst _ ih =>
    obtain ⟨m, rfl, hvisual⟩ := hfirst
    have halike := board.failAlike_draw (board.visualOf sheet view) [] selection
    rw [hframe.visualOf, hframe.slotOf] at hvisual
    rw [hframe.slotOf, List.filterMap_cons, drawnOf, List.filter_cons]
    cases hdraw : board.drawing sheet view with
    | error fault =>
      rw [slotOf, halike.error hdraw]
      exact ih
    | ok html =>
      obtain ⟨element, helement⟩ := halike.isOk hdraw
      rw [slotOf, helement] at hvisual ⊢
      have hfound := hvisual m rfl
      show shown.visuals[m]? :: (slots.filterMap Slot.visual?).map (shown.visuals[·]?) = _
      rw [hfound, ih]
      rfl

/-- Whatever was done with a board and whichever views fail, a known dataset is shown: its panel has the six
slots in their order, a failing view leaves a notice in its own slot and changes no other, and what is
returned and shares selections is what was drawn. -/
theorem render_isolates {book : Workbook} {width aspect : Double} (hreached : Reached book width aspect board)
    (hfind : board.book.find dataset = .ok sheet) :
    let shown := board.after (.render dataset)
    let whole := (board.after .mend).after (.render dataset)
    board.reply (.render dataset) = .ok (.shown shown.shown) ∧
    (∃ slots wholeSlots, shown.current = some ⟨dataset, board.height, slots⟩ ∧
      whole.current = some ⟨dataset, board.height, wholeSlots⟩ ∧
      slots.map Slot.viewId = ["table", "ratio", "speed", "ratio_vs_compress_speed",
        "ratio_vs_decompress_speed", "speed_compare"] ∧
      List.Forall₂ (board.Holds sheet dataset) sheet.table.views slots ∧
      List.Forall₂ (fun slot other => slot.visual?.isSome → slot.html = other.html) slots wholeSlots) ∧
    (shown.shown.map (shown.visuals[·]?) = (board.drawnOf sheet sheet.table.views).map some ∧
      shown.members = shown.shown ∧ shown.shown.Nodup) ∧
    ∀ v ∈ shown.shown, ∀ selection, shown.reply (.select v selection) = .ok .done ∧
      ∀ m ∈ shown.shown, (shown.after (.select v selection)).selectionOf m = selection := by
  intro shown whole
  have hsound := hreached.sound
  have hmended : Sound (board.after .mend) := hsound.after .mend
  obtain ⟨rendered, hrender, hrendered, hframe, hdepicts⟩ := hsound.render_depicts hfind
  have hmendedFind : (board.after .mend).book.find dataset = .ok sheet := hfind
  obtain ⟨wholly, hwholly, _, hwholeFrame, hwholeDepicts⟩ := hmended.render_depicts hmendedFind
  obtain rfl : shown = rendered := by
    simp only [shown, after_render, hrender]
  obtain rfl : whole = wholly := by
    simp only [whole, after_render, hwholly]
  obtain ⟨slots, hcurrent, hslots⟩ := hdepicts.current
  obtain ⟨wholeSlots, hwholeCurrent, hwholeSlots⟩ := hwholeDepicts.current
  have hheight : shown.height = board.height := hframe.height
  have hwholeHeight : whole.height = board.height := hwholeFrame.height
  rw [hheight] at hcurrent
  rw [hwholeHeight] at hwholeCurrent
  have hshown : shown.shown = slots.filterMap Slot.visual? := by
    rw [Board.shown, hcurrent]
    rfl
  refine ⟨?_, ⟨slots, wholeSlots, hcurrent, hwholeCurrent, hrendered.declared hcurrent, ?_, ?_⟩,
    ⟨?_, hrendered.gathered.membersOf, hrendered.gathered.nodup⟩, ?_⟩
  · rw [reply_render, hrender]
  · exact hslots.imp fun _ _ hshows => hshows.holds hframe
  · generalize sheet.table.views = views at hslots hwholeSlots
    clear hcurrent hwholeCurrent hshown
    induction hslots generalizing wholeSlots with
    | nil =>
      cases hwholeSlots
      exact .nil
    | cons hslot _ ih =>
      cases hwholeSlots with
      | cons hother hrest => exact .cons (hslot.html_mend hframe hwholeFrame hother) (ih _ hrest)
  · rw [hshown]
    exact visuals_of_shows hframe hslots
  · intro v hv selection
    have hlisteners : shown.network.listenersOf v selectEvent = .relay 0 :: List.replicate 0 .record :=
      (hsound.render_shown hrender hv).2
    refine ⟨hrendered.reply_select v selection, ?_⟩
    rw [hrendered.after_select]
    exact (hrendered.gathered.afterSelect_of_relay hv hlisteners selection).1

/-- The table and one of the two bar charts fail on a board on which a row was selected before. -/
theorem render_isolates_twoFailing :
    let selected := (blank withoutRecords defaultWidth defaultAspect).play
      [.render "d", .select 0 [⟨some 0, none⟩]]
    let board : Board := { selected with
      broken := fun visual =>
        if (visual.view.map View.id).any (· ∈ ["table", "ratio"]) then some "boom" else none }
    let shown := board.after (.render "d")
    board.reply (.render "d") = .ok (.shown [6, 7, 8, 9]) ∧ shown.members = [6, 7, 8, 9] ∧
      ∀ m ∈ shown.shown, (shown.after (.select 9 [])).selectionOf m = [] := by
  intro selected board shown
  have hselected : Reached withoutRecords defaultWidth defaultAspect selected := Reached.blank.play _
  have hbook : selected.book = withoutRecords := by
    rw [play_book, if_neg (by decide)]
    rfl
  have hshown : shown.shown = [6, 7, 8, 9] := by decide +kernel
  clear_value selected
  have hreached : Reached withoutRecords defaultWidth defaultAspect board := hselected.failing _
  obtain ⟨sheet, hfind⟩ : ∃ sheet, board.book.find "d" = .ok sheet := by
    show ∃ sheet, selected.book.find "d" = .ok sheet
    rw [hbook]
    exact ⟨_, rfl⟩
  obtain ⟨hreply, _, ⟨_, hmembers, _⟩, hselect⟩ := render_isolates hreached hfind
  refine ⟨hshown ▸ hreply, hmembers.trans hshown, ?_⟩
  have hlast : 9 ∈ shown.shown := by
    rw [hshown]
    decide
  exact (hselect 9 hlast []).2

end CodecReport.Board
