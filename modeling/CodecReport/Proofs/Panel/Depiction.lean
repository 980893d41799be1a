import CodecReport.Proofs.Outcome
import CodecReport.Proofs.Panel.Agreement

/-!
# What a panel shows

Whether a visualization can be drawn does not hang on what is selected in it, and a drawing hangs on nothing
but the view, the size of charts and the selection. `Board.panelOf` is a panel made of these alone. The
panel on a board is that one up to the places that its visualizations have in the network: right after it
was rendered with nothing selected, and after a selection was relayed and drawn with that selection.
-/

namespace CodecReport

/-! ### Faults of drawing -/

namespace Figure

theorem failAlike_withLayout (title : String) (options : ChartOptions) (traces traces' : List Trace)
    (categories categories' : Option (List String)) :
    FailAlike (withLayout title options traces categories) (withLayout title options traces' categories') := by
  rw [withLayout, withLayout]
  refine .bind_self _ fun _ => .bind_self _ fun _ => .bind_self _ fun _ => .bind_self _ fun _ => ?_
  exact .bind_self _ fun _ => .pure _ _

theorem failAlike_bars (view : View) (options : ChartOptions) (selected selected' : List Nat) :
    FailAlike (bars view options selected) (bars view options selected') := by
  rw [bars, bars]
  refine .bind_self _ fun _ => .bind_self _ fun columns => ?_
  have htraces : FailAlike
      (columns.mapM fun column => do return Trace.bars column.label (← view.lengths column) selected)
      (columns.mapM fun column => do return Trace.bars column.label (← view.lengths column) selected') := by
    refine .mapM (fun column => ?_) columns
    exact .bind_self (view.lengths column) fun _ => .pure _ _
  exact htraces.bind fun _ _ => failAlike_withLayout ..

theorem failAlike_scatter (view : View) (options : ChartOptions) (selected selected' : List Nat) :
    FailAlike (scatter view options selected) (scatter view options selected') := by
  rw [scatter, scatter]
  exact .bind_self _ fun _ => failAlike_withLayout ..

end Figure

namespace Visual

theorem failAlike_rowHtml (columns : List Column) (selected selected' : List Nat) (index : Nat)
    (row : List Value) :
    FailAlike (rowHtml columns selected index row) (rowHtml columns selected' index row) := by
  rw [rowHtml, rowHtml]
  exact .bind_self _ fun _ => .pure _ _

theorem failAlike_tableHtml (container : String) (view : View) (selected selected' : List Nat) :
    FailAlike (tableHtml container view selected) (tableHtml container view selected') := by
  rw [tableHtml, tableHtml]
  refine .bind_self _ fun columns => .bind_self _ fun frame => ?_
  refine FailAlike.bind (.mapM (fun entry => ?_) _) fun _ _ => .pure _ _
  exact failAlike_rowHtml columns selected selected' entry.2 entry.1

/-- Whether a visualization can be drawn does not hang on what is selected in it. -/
theorem failAlike_html (visual : Visual) (selection selection' : Selection) :
    FailAlike (visual.html selection) (visual.html selection') := by
  rw [html, html]
  cases visual.view with
  | none => cases visual.form <;> exact .refl _
  | some view =>
    cases visual.form with
    | table => exact failAlike_tableHtml ..
    | bar => exact (Figure.failAlike_bars ..).bind fun _ _ => .pure _ _
    | scatter => exact (Figure.failAlike_scatter ..).bind fun _ _ => .pure _ _
    | blank | blankChart => exact .refl _

end Visual

theorem Board.failAlike_draw (board : Board) (visual : Visual) (selection selection' : Selection) :
    FailAlike (board.draw visual selection) (board.draw visual selection') := by
  rw [Board.draw, Board.draw]
  cases board.broken visual with
  | some message => exact .refl _
  | none => exact visual.failAlike_html ..

namespace Board

/-- What a panel is made from: the workbook, the size of charts, and the visualizations that fail. -/
structure SameFrame (a b : Board) : Prop where
  book : b.book = a.book
  width : b.width = a.width
  aspect : b.aspect = a.aspect
  broken : b.broken = a.broken

namespace SameFrame

variable {a b c : Board}

theorem refl (a : Board) : SameFrame a a := ⟨rfl, rfl, rfl, rfl⟩

theorem symm (h : SameFrame a b) : SameFrame b a :=
  ⟨h.book.symm, h.width.symm, h.aspect.symm, h.broken.symm⟩

theorem trans (hfirst : SameFrame a b) (hsecond : SameFrame b c) : SameFrame a c :=
  ⟨hsecond.book.trans hfirst.book, hsecond.width.trans hfirst.width,
    hsecond.aspect.trans hfirst.aspect, hsecond.broken.trans hfirst.broken⟩

theorem height (h : SameFrame a b) : b.height = a.height := by
  rw [Board.height, h.width, h.aspect]
  rfl

theorem draw (h : SameFrame a b) (visual : Visual) (selection : Selection) :
    b.draw visual selection = a.draw visual selection := by
  rw [Board.draw, Board.draw, h.broken]

theorem visualOf (h : SameFrame a b) (sheet : Sheet) (view : View) :
    b.visualOf sheet view = a.visualOf sheet view := by
  rw [Board.visualOf, Board.visualOf, h.height]

end SameFrame

/-- The slot of a view with a selection, drawn as the visualization `m`. -/
def slotOf (board : Board) (sheet : Sheet) (dataset : String) (selection : Selection) (m : MemberId)
    (view : View) : Slot where
  container := (board.visualOf sheet view).container
  viewId := view.id
  content := match board.draw (board.visualOf sheet view) selection with
    | .ok html => .drawn m html
    | .error fault => .failed (Panel.failure dataset view fault)

/-- The panel of a dataset with a selection in all its visualizations, which are all drawn as the first
of a network. -/
def panelOf (board : Board) (dataset : String) (sheet : Sheet) (selection : Selection) : Panel where
  dataset := dataset
  height := board.height
  slots := sheet.table.views.map (board.slotOf sheet dataset selection 0)

theorem SameFrame.slotOf {a b : Board} (h : SameFrame a b) (sheet : Sheet) (dataset : String)
    (selection : Selection) (m : MemberId) (view : View) :
    b.slotOf sheet dataset selection m view = a.slotOf sheet dataset selection m view := by
  rw [Board.slotOf, Board.slotOf, h.visualOf, h.draw]

theorem SameFrame.panelOf {a b : Board} (h : SameFrame a b) (dataset : String) (sheet : Sheet)
    (selection : Selection) : b.panelOf dataset sheet selection = a.panelOf dataset sheet selection := by
  rw [Board.panelOf, Board.panelOf, h.height]
  congr 1
  exact List.map_congr_left fun view _ => h.slotOf sheet dataset selection 0 view

section Placing

variable (sheet : Sheet) (dataset : String)

/-- A slot shows a view with a selection, and its visualization is the one of that view. -/
def Shows (board : Board) (selection : Selection) (view : View) (slot : Slot) : Prop :=
  ∃ m, slot = board.slotOf sheet dataset selection m view ∧
    ∀ v, slot.visual? = some v → board.visuals[v]? = some (board.visualOf sheet view)

theorem Shows.of_frame {sheet : Sheet} {dataset : String} {a b : Board} {selection : Selection}
    {view : View} {slot : Slot}
    (hframe : SameFrame a b) (hvisuals : a.visuals <+: b.visuals)
    (h : a.Shows sheet dataset selection view slot) : b.Shows sheet dataset selection view slot := by
  obtain ⟨m, rfl, hvisual⟩ := h
  refine ⟨m, (hframe.slotOf ..).symm, fun v hv => ?_⟩
  rw [hframe.visualOf]
  obtain ⟨rest, hrest⟩ := hvisuals
  have hold := hvisual v hv
  obtain ⟨hlt, _⟩ := List.getElem?_eq_some_iff.mp hold
  rw [← hrest, List.getElem?_append_left hlt]
  exact hold

theorem sameFrame_place (board : Board) (view : View) :
    SameFrame board (board.place sheet dataset view).2 := by
  rw [place]
  cases board.draw (board.visualOf sheet view) [] <;> exact ⟨rfl, rfl, rfl, rfl⟩

theorem visuals_prefix_place (board : Board) (view : View) :
    board.visuals <+: (board.place sheet dataset view).2.visuals := by
  rw [place]
  cases board.draw (board.visualOf sheet view) [] with
  | ok html => exact List.prefix_append ..
  | error fault => exact List.prefix_rfl

theorem shows_place {board : Board} (hrecorded : board.network.members.length = board.visuals.length)
    (view : View) :
    (board.place sheet dataset view).2.Shows sheet dataset [] view (board.place sheet dataset view).1 := by
  have hframe := sameFrame_place sheet dataset board view
  refine ⟨board.network.members.length, ?_, fun v hv => ?_⟩
  · rw [hframe.slotOf, slotOf, place]
    cases board.draw (board.visualOf sheet view) [] <;> rfl
  · rw [hframe.visualOf]
    rw [place] at hv ⊢
    cases hdraw : board.draw (board.visualOf sheet view) [] with
    | error fault =>
      rw [hdraw] at hv
      cases hv
    | ok html =>
      rw [hdraw] at hv
      cases hv
      change (board.visuals ++ [board.visualOf sheet view])[board.network.members.length]? = _
      rw [hrecorded]
      exact List.getElem?_concat_length

theorem placeAll_shows (views : List View) {board : Board}
    (hrecorded : board.network.members.length = board.visuals.length) :
    SameFrame board (placeAll sheet dataset views board).2 ∧
      board.visuals <+: (placeAll sheet dataset views board).2.visuals ∧
      List.Forall₂ ((placeAll sheet dataset views board).2.Shows sheet dataset []) views
        (placeAll sheet dataset views board).1 := by
  induction views generalizing board with
  | nil => exact ⟨.refl board, List.prefix_rfl, .nil⟩
  | cons view rest ih =>
    obtain ⟨hframe, hvisuals, hrest⟩ := ih (recorded_place sheet dataset hrecorded view)
    rw [placeAll]
    exact ⟨(sameFrame_place sheet dataset board view).trans hframe,
      (visuals_prefix_place sheet dataset board view).trans hvisuals,
      .cons ((shows_place sheet dataset hrecorded view).of_frame hframe hvisuals) hrest⟩

end Placing

/-- The board shows the panel of a dataset with a selection in all its visualizations. -/
structure Depicts (board : Board) (dataset : String) (sheet : Sheet) (selection : Selection) : Prop where
  found : board.book.find dataset = .ok sheet
  current : ∃ slots, board.current = some ⟨dataset, board.height, slots⟩ ∧
    List.Forall₂ (board.Shows sheet dataset selection) sheet.table.views slots

namespace Depicts

variable {board : Board} {dataset : String} {sheet : Sheet} {selection : Selection}

theorem of_frame {a b : Board} (hframe : SameFrame a b) (hvisuals : a.visuals <+: b.visuals)
    (hcurrent : b.current = a.current) (h : a.Depicts dataset sheet selection) :
    b.Depicts dataset sheet selection := by
  obtain ⟨slots, hpanel, hslots⟩ := h.current
  refine ⟨hframe.book ▸ h.found, slots, ?_, hslots.imp fun _ _ hshows => hshows.of_frame hframe hvisuals⟩
  rw [hcurrent, hpanel, hframe.height]

/-- Slots that show the views of a sheet and those of its panel differ in the places of their
visualizations only. -/
theorem map_eq_of_shows {α : Type} {f : Slot → α}
    (hf : ∀ view m, f (board.slotOf sheet dataset selection m view) =
      f (board.slotOf sheet dataset selection 0 view)) {views : List View} {slots : List Slot}
    (h : List.Forall₂ (board.Shows sheet dataset selection) views slots) :
    slots.map f = (views.map (board.slotOf sheet dataset selection 0)).map f := by
  induction h with
  | nil => rfl
  | cons hshows _ ih =>
    obtain ⟨m, rfl, _⟩ := hshows
    rw [List.map_cons, List.map_cons, List.map_cons, ih, hf]

theorem body_slotOf (board : Board) (sheet : Sheet) (dataset : String) (selection : Selection) (m : MemberId)
    (view : View) : (board.slotOf sheet dataset selection m view).body =
      (board.slotOf sheet dataset selection 0 view).body := by
  rw [slotOf, slotOf]
  cases board.draw (board.visualOf sheet view) selection <;> rfl

theorem html_eq (h : board.Depicts dataset sheet selection) (hidden : Bool) :
    board.html hidden = .ok ((board.panelOf dataset sheet selection).html sheet hidden) := by
  obtain ⟨slots, hpanel, hslots⟩ := h.current
  have hslot (view : View) (m : MemberId) : (board.slotOf sheet dataset selection m view).html =
      (board.slotOf sheet dataset selection 0 view).html := by
    unfold Slot.html
    rw [body_slotOf]
    rfl
  have hsame : Panel.html ⟨dataset, board.height, slots⟩ sheet hidden =
      (board.panelOf dataset sheet selection).html sheet hidden := by
    unfold Panel.html
    simp only [panelOf, map_eq_of_shows hslot hslots]
  rw [Board.html, hpanel, ← hsame]
  simp only [h.found, bind, Except.bind]
  rfl

theorem notices_eq (h : board.Depicts dataset sheet selection) :
    (board.current.map Panel.notices).getD [] = (board.panelOf dataset sheet selection).notices := by
  obtain ⟨slots, hpanel, hslots⟩ := h.current
  have hnotices := map_eq_of_shows (f := Slot.notice?) (fun view m => by
    rw [slotOf, slotOf]
    cases board.draw (board.visualOf sheet view) selection <;> rfl) hslots
  rw [hpanel]
  change slots.filterMap Slot.notice? = (board.panelOf dataset sheet selection).slots.filterMap Slot.notice?
  have hid (items : List Slot) : items.filterMap Slot.notice? = (items.map Slot.notice?).filterMap id := by
    rw [List.filterMap_map]
    rfl
  rw [hid, hid, hnotices]
  rfl

end Depicts

/-! ### Drawing a panel again -/

section Redrawing

variable {board : Board} {sheet : Sheet} {dataset : String} {before : Selection} {view : View} {slot : Slot}

/-- A view that cannot be drawn shows the same with every selection. -/
theorem Shows.of_failed (h : board.Shows sheet dataset before view slot) (hnone : slot.visual? = none)
    (selection : Selection) : board.Shows sheet dataset selection view slot := by
  obtain ⟨m, rfl, hvisual⟩ := h
  refine ⟨m, ?_, hvisual⟩
  cases hdraw : board.draw (board.visualOf sheet view) before with
  | ok html =>
    rw [slotOf, hdraw] at hnone
    cases hnone
  | error fault =>
    have halike := board.failAlike_draw (board.visualOf sheet view) before selection
    rw [slotOf, slotOf, hdraw, halike.error hdraw]

theorem redrawSlot_shows (h : board.Shows sheet dataset before view slot) {selection : Selection}
    (hheld : ∀ m, slot.visual? = some m → board.selectionOf m = selection) :
    ∃ fresh, board.redrawSlot slot = .ok fresh ∧ board.Shows sheet dataset selection view fresh := by
  have hshows := h
  obtain ⟨m, rfl, hvisual⟩ := h
  cases hdraw : board.draw (board.visualOf sheet view) before with
  | error fault =>
    have hnone : (board.slotOf sheet dataset before m view).visual? = none := by
      rw [slotOf, hdraw]
      rfl
    refine ⟨_, ?_, hshows.of_failed hnone selection⟩
    rw [redrawSlot, slotOf, hdraw]
  | ok html =>
    have hshown : (board.slotOf sheet dataset before m view).visual? = some m := by
      rw [slotOf, hdraw]
      rfl
    have hfound := hvisual m hshown
    have halike := board.failAlike_draw (board.visualOf sheet view) before selection
    obtain ⟨element, helement⟩ := halike.isOk hdraw
    refine ⟨board.slotOf sheet dataset selection m view, ?_, m, rfl, fun v hv => ?_⟩
    · rw [redrawSlot, slotOf, hdraw]
      simp only [hfound, hheld m hshown, helement, slotOf]
      rfl
    · rw [slotOf, helement] at hv
      cases hv
      exact hfound

end Redrawing

theorem redrawSlots_shows {board : Board} {sheet : Sheet} {dataset : String} {before : Selection}
    {views : List View} {slots : List Slot}
    (h : List.Forall₂ (board.Shows sheet dataset before) views slots) {selection : Selection}
    (hheld : ∀ m ∈ slots.filterMap Slot.visual?, board.selectionOf m = selection) :
    ∃ fresh, board.redrawSlots slots = (none, fresh) ∧
      List.Forall₂ (board.Shows sheet dataset selection) views fresh := by
  induction h with
  | nil => exact ⟨[], rfl, .nil⟩
  | @cons view slot views slots hshows _ ih =>
    obtain ⟨first, hfirst, hshowsFirst⟩ := redrawSlot_shows hshows fun m hm =>
      hheld m (List.mem_filterMap.mpr ⟨slot, List.mem_cons_self, hm⟩)
    obtain ⟨rest, hrest, hshowsRest⟩ := ih fun m hm => by
      obtain ⟨other, hother, hvisual⟩ := List.mem_filterMap.mp hm
      exact hheld m (List.mem_filterMap.mpr ⟨other, List.mem_cons_of_mem _ hother, hvisual⟩)
    refine ⟨first :: rest, ?_, .cons hshowsFirst hshowsRest⟩
    rw [redrawSlots, hfirst, hrest]

/-- A panel of which nothing is drawn shows the same with every selection. -/
theorem Depicts.of_none_shown {board : Board} {dataset : String} {sheet : Sheet} {before : Selection}
    (h : board.Depicts dataset sheet before) (hnone : board.shown = []) (selection : Selection) :
    board.Depicts dataset sheet selection := by
  obtain ⟨slots, hpanel, hslots⟩ := h.current
  rw [shown, hpanel] at hnone
  have hfailed : ∀ slot ∈ slots, slot.visual? = none := List.filterMap_eq_nil_iff.mp hnone
  refine ⟨h.found, slots, hpanel, ?_⟩
  clear hpanel hnone
  generalize sheet.table.views = views at hslots ⊢
  induction hslots with
  | nil => exact .nil
  | @cons view slot views rest hshows _ ih =>
    refine .cons (hshows.of_failed (hfailed slot List.mem_cons_self) selection) (ih ?_)
    exact fun other hother => hfailed other (List.mem_cons_of_mem _ hother)

/-- When all that is on show holds a selection, drawing again shows it everywhere and does not fail. -/
theorem Depicts.redraw {board : Board} {dataset : String} {sheet : Sheet} {before : Selection}
    (h : board.Depicts dataset sheet before) {selection : Selection}
    (hheld : ∀ m ∈ board.shown, board.selectionOf m = selection) :
    board.redraw.1 = .ok () ∧ SameFrame board board.redraw.2 ∧
      board.redraw.2.Depicts dataset sheet selection := by
  obtain ⟨slots, hpanel, hslots⟩ := h.current
  rw [shown, hpanel] at hheld
  obtain ⟨fresh, hfresh, hshows⟩ := redrawSlots_shows hslots hheld
  have hredraw : board.redraw =
      (.ok (), { board with current := some ⟨dataset, board.height, fresh⟩ }) := by
    rw [Board.redraw, hpanel]
    simp only [hfresh]
  have hframe : SameFrame board { board with current := some ⟨dataset, board.height, fresh⟩ } :=
    ⟨rfl, rfl, rfl, rfl⟩
  rw [hredraw]
  refine ⟨rfl, hframe, h.found, fresh, rfl, hshows.imp fun _ _ hview => ?_⟩
  exact hview.of_frame hframe List.prefix_rfl

namespace Sound

variable {board : Board}

theorem render_depicts (h : Sound board) {dataset : String} {sheet : Sheet}
    (hfind : board.book.find dataset = .ok sheet) :
    ∃ shown, board.render dataset = .ok shown ∧ Sound shown ∧ SameFrame board shown ∧
      shown.Depicts dataset sheet [] := by
  have hrender := render_of_find hfind
  have hsound := h.render hrender
  obtain ⟨hframe, _, hshows⟩ := placeAll_shows sheet dataset sheet.table.views h.clear.recorded
  generalize placeAll sheet dataset sheet.table.views board.clear = placed at hrender hsound hframe hshows
  have hclear : SameFrame board board.clear := ⟨rfl, rfl, rfl, rfl⟩
  have hshowing : SameFrame placed.2 (showing dataset placed) := ⟨rfl, rfl, rfl, rfl⟩
  have hsame : SameFrame board (showing dataset placed) := (hclear.trans hframe).trans hshowing
  refine ⟨_, hrender, hsound, hsame, ?_, placed.1, rfl, hshows.imp fun _ _ hview => ?_⟩
  · rw [hsame.book]
    exact hfind
  · exact hview.of_frame hshowing List.prefix_rfl

theorem select_eq (h : Sound board) (m : MemberId) (selection : Selection) :
    board.select m selection = { board with network := Network.afterSelect m selection board.network } := by
  rw [Board.select, relay,
    Network.runOn_select m selection h.gathered.accepting h.gathered.idle h.hasGroup]

/-- A selection in a visualization that the group alone listens to is drawn in all of the panel. -/
theorem select_depicts (h : Sound board) {dataset : String} {sheet : Sheet} {before : Selection}
    (hdepicts : board.Depicts dataset sheet before) {m : MemberId} (hm : m ∈ board.shown)
    (hlisteners : board.network.listenersOf m selectEvent = [.relay 0]) (selection : Selection) :
    ∃ drawn, (board.select m selection).redraw = (.ok (), drawn) ∧ Sound drawn ∧ SameFrame board drawn ∧
      drawn.Depicts dataset sheet selection := by
  have hselect := h.select_eq m selection
  have hsound : Sound (board.select m selection) := by
    rw [hselect]
    exact h.onWiring (Network.sameWiring_afterSelect m selection h.gathered.idle)
  have hframe : SameFrame board (board.select m selection) := by
    rw [hselect]
    exact ⟨rfl, rfl, rfl, rfl⟩
  have hselected : (board.select m selection).Depicts dataset sheet before := by
    refine hdepicts.of_frame hframe ?_ ?_
    · simp only [hselect, List.prefix_rfl]
    · simp only [hselect]
  have hheld : ∀ v ∈ (board.select m selection).shown,
      (board.select m selection).selectionOf v = selection := by
    rw [hselect]
    have hone : board.network.listenersOf m selectEvent = .relay 0 :: List.replicate 0 .record := hlisteners
    exact (h.gathered.afterSelect_of_relay hm hone selection).1
  obtain ⟨houtcome, hredrawn, hdrawn⟩ := hselected.redraw hheld
  exact ⟨_, Prod.ext houtcome rfl, hsound.redraw, hframe.trans hredrawn, hdrawn⟩

end Sound

end Board

end CodecReport
