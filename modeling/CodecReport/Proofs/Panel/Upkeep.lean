import CodecReport.Panel.Move
import CodecReport.Proofs.Selection.Gathered

/-!
# What every move keeps

The group of a board consists of the visualizations on show, in the order of their views, whatever was
shown, selected, listened to or taken away before. `Board.Sound` says so together with how the network is
wired, and every move keeps it. Showing a panel looks the dataset up before it touches anything, so that an
unknown one leaves the board as it was.
-/

namespace CodecReport

theorem Table.views_ids (t : Table) : t.views.map View.id = ViewPlan.standard.map ViewPlan.id := by
  rw [views, List.map_map]
  rfl

namespace Board

open Network (Gathered)

/-- The board's group consists of what is on show, every member of the network is a visualization that was
drawn, and the panel on show has a slot for every view. -/
structure Sound (board : Board) : Prop where
  gathered : Gathered board.network board.shown
  recorded : board.network.members.length = board.visuals.length
  declared : ∀ {panel}, board.current = some panel →
    panel.slots.map Slot.viewId = ViewPlan.standard.map ViewPlan.id

/-! ### Showing a panel -/

section Placing

variable (sheet : Sheet) (dataset : String)

@[simp] theorem place_book (board : Board) (view : View) :
    (board.place sheet dataset view).2.book = board.book := by
  rw [place]
  cases board.draw (board.visualOf sheet view) [] <;> rfl

@[simp] theorem place_viewId (board : Board) (view : View) :
    (board.place sheet dataset view).1.viewId = view.id := by
  rw [place]
  cases board.draw (board.visualOf sheet view) [] <;> rfl

/-- A view that is drawn joins the group, one that fails does not. -/
theorem gathered_place {board : Board} {members : List MemberId} (h : Gathered board.network members)
    (view : View) :
    Gathered (board.place sheet dataset view).2.network
      (members ++ (board.place sheet dataset view).1.visual?.toList) := by
  rw [place]
  cases board.draw (board.visualOf sheet view) [] with
  | ok html => exact h.enroll _
  | error fault =>
    simp only [Slot.visual?, Option.toList_none, List.append_nil]
    exact h

/-- A view that is drawn becomes a member of the network and a visualization of the board. -/
theorem recorded_place {board : Board} (h : board.network.members.length = board.visuals.length)
    (view : View) :
    (board.place sheet dataset view).2.network.members.length =
      (board.place sheet dataset view).2.visuals.length := by
  rw [place]
  cases board.draw (board.visualOf sheet view) [] with
  | ok html =>
    simp only [Network.length_join, Network.addMember, List.length_append, List.length_singleton, h]
  | error fault => exact h

@[simp] theorem placeAll_book (views : List View) (board : Board) :
    (placeAll sheet dataset views board).2.book = board.book := by
  induction views generalizing board with
  | nil => rfl
  | cons view rest ih =>
    rw [placeAll, ih, place_book]

theorem placeAll_viewIds (views : List View) (board : Board) :
    (placeAll sheet dataset views board).1.map Slot.viewId = views.map View.id := by
  induction views generalizing board with
  | nil => rfl
  | cons view rest ih =>
    rw [placeAll, List.map_cons, List.map_cons, ih, place_viewId]

theorem gathered_placeAll (views : List View) {board : Board} {members : List MemberId}
    (h : Gathered board.network members) :
    Gathered (placeAll sheet dataset views board).2.network
      (members ++ (placeAll sheet dataset views board).1.filterMap Slot.visual?) := by
  induction views generalizing board members with
  | nil =>
    rw [placeAll, List.filterMap_nil, List.append_nil]
    exact h
  | cons view rest ih =>
    have hrest := ih (gathered_place sheet dataset h view)
    rw [List.append_assoc] at hrest
    rw [placeAll, List.filterMap_cons]
    cases hvisual : (board.place sheet dataset view).1.visual? with
    | none =>
      rw [hvisual] at hrest
      exact hrest
    | some m =>
      rw [hvisual] at hrest
      exact hrest

theorem recorded_placeAll (views : List View) {board : Board}
    (h : board.network.members.length = board.visuals.length) :
    (placeAll sheet dataset views board).2.network.members.length =
      (placeAll sheet dataset views board).2.visuals.length := by
  induction views generalizing board with
  | nil => exact h
  | cons view rest ih =>
    rw [placeAll]
    exact ih (recorded_place sheet dataset h view)

/-- Putting views up step by step is placing them all. -/
theorem runOn_mapM_putUp (views : List View) (board : Board) :
    Steps.runOn board (views.mapM (putUp sheet dataset)) =
      (.ok (placeAll sheet dataset views board).1, (placeAll sheet dataset views board).2) := by
  induction views generalizing board with
  | nil => rfl
  | cons view rest ih =>
    have hfirst : Steps.runOn board (putUp sheet dataset view) =
        (.ok (board.place sheet dataset view).1, (board.place sheet dataset view).2) := rfl
    rw [List.mapM_cons, Steps.runOn_bind_ok hfirst, Steps.runOn_bind_ok (ih _)]
    rfl

end Placing

/-- The board that shows what was put up. -/
def showing (dataset : String) (placed : List Slot × Board) : Board :=
  { placed.2 with current := some { dataset, height := placed.2.height, slots := placed.1 } }

@[simp] theorem showing_book (dataset : String) (placed : List Slot × Board) :
    (showing dataset placed).book = placed.2.book := rfl

theorem render_of_find {board : Board} {dataset : String} {sheet : Sheet}
    (hfind : board.book.find dataset = .ok sheet) :
    board.render dataset = .ok (showing dataset (placeAll sheet dataset sheet.table.views board.clear)) := by
  rw [render, hfind]
  simp only [bind, Except.bind]
  generalize placeAll sheet dataset sheet.table.views board.clear = placed
  rfl

theorem render_of_find_error {board : Board} {dataset : String} {fault : Fault}
    (hfind : board.book.find dataset = .error fault) : board.render dataset = .error fault := by
  rw [render, hfind]
  rfl

/-- Showing a panel step by step is rendering it, and leaves the board alone where that fails. -/
theorem runOn_display (board : Board) (dataset : String) :
    Steps.runOn board (display dataset) = match board.render dataset with
      | .ok shown => (.ok shown.shown, shown)
      | .error fault => (.error (.board fault), board) := by
  rw [display, Steps.runOn_bind_ok (Steps.runOn_get board)]
  cases hfind : board.book.find dataset with
  | error fault =>
    rw [render_of_find_error hfind]
    exact Steps.runOn_bind_error (Steps.runOn_ofResult board _) _
  | ok sheet =>
    rw [render_of_find hfind]
    change Steps.runOn board (Steps.ofResult (.ok sheet) >>= _) = _
    rw [Steps.runOn_bind_ok (Steps.runOn_ofResult board _), Steps.runOn_bind_ok (Steps.runOn_modify board clear),
      Steps.runOn_bind_ok (runOn_mapM_putUp sheet dataset sheet.table.views board.clear)]
    generalize placeAll sheet dataset sheet.table.views board.clear = placed
    rfl

theorem find_eq_error_iff {book : Workbook} {name : String} {fault : Fault} :
    book.find name = .error fault ↔ name ∉ book.names ∧ fault = .unknownDataset name := by
  rw [Workbook.find, Workbook.names, ← Entries.get?_eq_none_iff]
  cases Entries.get? book name with
  | none => simp [eq_comm]
  | some sheet => simp

theorem render_eq_error_iff {board : Board} {name : String} {fault : Fault} :
    board.render name = .error fault ↔ name ∉ board.book.names ∧ fault = .unknownDataset name := by
  rw [← find_eq_error_iff]
  cases hfind : board.book.find name with
  | error found => rw [render_of_find_error hfind, Except.error.injEq, Except.error.injEq]
  | ok sheet => simp only [render_of_find hfind, reduceCtorEq]

/-! ### The board behind a move -/

theorem runOn_relaying {α : Type} {board : Board} {steps : Network.Step α} {outcome : Except RelayFault α}
    {net : Network} (hrun : Steps.runOn board.network steps = (outcome, net)) :
    Steps.runOn board (relaying steps) = (outcome.mapError .relay, { board with network := net }) := by
  have hrelay : board.relay steps = (outcome, { board with network := net }) := by
    rw [relay, hrun]
  rw [relaying, Steps.runOn_bind_ok (Steps.runOn_get board)]
  simp only [hrelay]
  rfl

theorem after_render (board : Board) (dataset : String) :
    board.after (.render dataset) = match board.render dataset with
      | .ok shown => shown
      | .error _ => board := by
  rw [after, perform, Steps.runOn_map, runOn_display]
  cases board.render dataset <;> rfl

theorem reply_render (board : Board) (dataset : String) :
    board.reply (.render dataset) = match board.render dataset with
      | .ok shown => .ok (.shown shown.shown)
      | .error fault => .error (.board fault) := by
  rw [reply, perform, Steps.runOn_map, runOn_display]
  cases board.render dataset <;> rfl

theorem after_redraw (board : Board) : board.after .redraw = board.redraw.2 := by
  rw [after, perform, Steps.runOn_map, refresh, Steps.runOn_bind_ok (Steps.runOn_get board)]
  cases board.redraw.1 <;> rfl

namespace Sound

variable {board : Board}

theorem hasGroup (h : Sound board) : 0 < board.network.groups.length := by
  rw [h.gathered.groups]
  exact Nat.zero_lt_one

theorem after_select (h : Sound board) (m : MemberId) (selection : Selection) :
    board.after (.select m selection) =
      { board with network := Network.afterSelect m selection board.network } := by
  rw [after, perform, Steps.runOn_map,
    runOn_relaying (Network.runOn_select m selection h.gathered.accepting h.gathered.idle h.hasGroup)]

theorem runOn_broadcast (h : Sound board) (m : MemberId) (selection : Selection) :
    Steps.runOn board.network (Network.broadcast panelGroup (some m) selection) =
      (.ok (board.network.targetsOf 0 (some m)).length,
        Network.afterBroadcast 0 (some m) selection board.network) := by
  rw [Network.broadcast, Steps.runOn_bind_ok (Steps.runOn_get _)]
  exact Network.runOn_broadcastBy _ 0 (some m) selection h.gathered.accepting (h.gathered.idle 0)

theorem after_broadcast (h : Sound board) (m : MemberId) (selection : Selection) :
    board.after (.broadcast m selection) =
      { board with network := Network.afterBroadcast 0 (some m) selection board.network } := by
  rw [after, perform, Steps.runOn_map, runOn_relaying (h.runOn_broadcast m selection)]

end Sound

/-! ### Drawing again -/

theorem redrawSlot_eq_ok {board : Board} {slot fresh : Slot} (hdrawn : board.redrawSlot slot = .ok fresh) :
    fresh.viewId = slot.viewId ∧ fresh.visual? = slot.visual? := by
  rw [redrawSlot] at hdrawn
  cases hcontent : slot.content with
  | failed notice =>
    rw [hcontent] at hdrawn
    cases hdrawn
    exact ⟨rfl, rfl⟩
  | drawn m html =>
    rw [hcontent] at hdrawn
    have hvisual : slot.visual? = some m := by rw [Slot.visual?, hcontent]
    rcases hfound : board.visuals[m]? with _ | visual
    · simp only [hfound] at hdrawn
      cases hdrawn
      exact ⟨rfl, rfl⟩
    · simp only [hfound] at hdrawn
      cases hdraw : board.draw visual (board.selectionOf m) with
      | error fault =>
        rw [hdraw] at hdrawn
        cases hdrawn
      | ok element =>
        rw [hdraw] at hdrawn
        cases hdrawn
        exact ⟨rfl, hvisual.symm⟩

/-- Drawing again keeps which slots there are and what is on show. -/
theorem redrawSlots_keeps (board : Board) (slots : List Slot) :
    (board.redrawSlots slots).2.map Slot.viewId = slots.map Slot.viewId ∧
      (board.redrawSlots slots).2.filterMap Slot.visual? = slots.filterMap Slot.visual? := by
  induction slots with
  | nil => exact ⟨rfl, rfl⟩
  | cons slot rest ih =>
    rw [redrawSlots]
    cases hdrawn : board.redrawSlot slot with
    | error fault => exact ⟨rfl, rfl⟩
    | ok fresh =>
      obtain ⟨hview, hvisual⟩ := redrawSlot_eq_ok hdrawn
      exact ⟨by rw [List.map_cons, List.map_cons, hview, ih.1],
        by rw [List.filterMap_cons, List.filterMap_cons, hvisual, ih.2]⟩

/-! ### Every move keeps a board sound -/

namespace Sound

variable {board : Board}

theorem blank (book : Workbook) (width aspect : Double) : Sound (Board.blank book width aspect) where
  gathered := {
    groups := rfl
    nodup := List.nodup_nil
    known := fun _ hm => absurd hm List.not_mem_nil
    accepting := fun _ hmember => absurd hmember List.not_mem_nil
    relays := fun hmember => by cases hmember }
  recorded := rfl
  declared hcurrent := by cases hcurrent

/-- Changes of the network that keep its group and its members keep the board sound. -/
theorem onNetwork (h : Sound board) {net : Network} (hnet : Gathered net board.shown)
    (hlength : net.members.length = board.network.members.length) : Sound { board with network := net } :=
  ⟨hnet, hlength.trans h.recorded, h.declared⟩

theorem onWiring (h : Sound board) {net : Network} (hwiring : Network.SameWiring board.network net) :
    Sound { board with network := net } :=
  h.onNetwork (h.gathered.of_sameWiring hwiring) hwiring.length

theorem clear (h : Sound board) : Sound board.clear :=
  ⟨h.gathered.dissolve, (Network.length_dissolve panelGroup board.network).trans h.recorded,
    fun hcurrent => by cases hcurrent⟩

theorem render (h : Sound board) {dataset : String} {shown : Board} (hshown : board.render dataset = .ok shown) :
    Sound shown := by
  cases hfind : board.book.find dataset with
  | error fault =>
    rw [render_of_find_error hfind] at hshown
    cases hshown
  | ok sheet =>
    rw [render_of_find hfind, Except.ok.injEq] at hshown
    subst hshown
    have hempty : Gathered board.clear.network [] := h.gathered.dissolve
    have hplaced := gathered_placeAll sheet dataset sheet.table.views hempty
    have hviews := placeAll_viewIds sheet dataset sheet.table.views board.clear
    have hrecorded := recorded_placeAll sheet dataset sheet.table.views h.clear.recorded
    rw [List.nil_append] at hplaced
    rw [Table.views_ids] at hviews
    generalize placeAll sheet dataset sheet.table.views board.clear = placed at hplaced hviews hrecorded
    exact ⟨hplaced, hrecorded, fun hcurrent => Option.some.inj hcurrent ▸ hviews⟩

theorem redraw (h : Sound board) : Sound board.redraw.2 := by
  rw [Board.redraw]
  cases hcurrent : board.current with
  | none => exact h
  | some panel =>
    obtain ⟨hviews, hvisuals⟩ := redrawSlots_keeps board panel.slots
    have hshown : board.shown = (board.redrawSlots panel.slots).2.filterMap Slot.visual? := by
      rw [shown, hcurrent, hvisuals]
      rfl
    refine ⟨?_, h.recorded, fun hnew => ?_⟩
    · change Gathered board.network ((board.redrawSlots panel.slots).2.filterMap Slot.visual?)
      exact hshown ▸ h.gathered
    · cases hnew
      exact hviews.trans (h.declared hcurrent)

theorem after (h : Sound board) (move : Move) : Sound (board.after move) := by
  cases move with
  | render dataset =>
    rw [after_render]
    cases hrender : board.render dataset with
    | ok shown => exact h.render hrender
    | error fault => exact h
  | clear => exact h.clear
  | redraw =>
    rw [after_redraw]
    exact h.redraw
  | select m selection =>
    rw [h.after_select]
    exact h.onWiring (Network.sameWiring_afterSelect m selection h.gathered.idle)
  | assign m selection => exact h.onWiring (Network.sameWiring_setSelection board.network m selection)
  | listen m event => exact h.onNetwork (h.gathered.listen m event) (Network.length_updateMember ..)
  | unlisten m event =>
    cases event with
    | some event => exact h.onNetwork (h.gathered.unlisten m event) (Network.length_updateMember ..)
    | none => exact h.onNetwork (h.gathered.unlistenAll m) (Network.length_updateMember ..)
  | broadcast m selection =>
    rw [h.after_broadcast]
    exact h.onWiring (Network.sameWiring_afterBroadcast 0 (some m) selection (h.gathered.idle 0))
  | teardown => exact ⟨h.gathered, h.recorded, h.declared⟩
  | spoil form message => exact ⟨h.gathered, h.recorded, h.declared⟩
  | mend => exact ⟨h.gathered, h.recorded, h.declared⟩

theorem play (moves : List Move) (h : Sound board) : Sound (board.play moves) := by
  induction moves generalizing board with
  | nil => exact h
  | cons move rest ih => exact ih (h.after move)

end Sound

end Board

end CodecReport
