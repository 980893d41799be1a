import CodecReport.Proofs.Panel.Upkeep
import CodecReport.Proofs.Selection.Hearing

/-!
# Agreement of the panel on show

A visualization that is put up relays its selections to the group once, and it does so until its listeners
are removed: showing, redrawing, selecting and listening elsewhere leave its listeners alone. So at the end
of every run a selection in it is the selection of the whole panel, and of the listeners that were added
since, each is called once.
-/

namespace CodecReport

/-- The move removes the listeners to a visualization's selections. -/
def Move.Silences (v : MemberId) : Move → Prop
  | .unlisten m event => m = v ∧ (event = none ∨ event = some selectEvent)
  | _ => False

namespace Board

section Placing

variable (sheet : Sheet) (dataset : String)

theorem place_members_le (board : Board) (view : View) :
    board.network.members.length ≤ (board.place sheet dataset view).2.network.members.length := by
  rw [place]
  cases board.draw (board.visualOf sheet view) [] with
  | ok html =>
    simp only [Network.length_join, Network.addMember, List.length_append]
    exact Nat.le_add_right ..
  | error fault => exact Nat.le_refl _

theorem placeAll_members_le (views : List View) (board : Board) :
    board.network.members.length ≤ (placeAll sheet dataset views board).2.network.members.length := by
  induction views generalizing board with
  | nil => exact Nat.le_refl _
  | cons view rest ih =>
    rw [placeAll]
    exact Nat.le_trans (place_members_le sheet dataset board view) (ih _)

/-- A view that is drawn takes the next place in the network, and only the group listens to it. -/
theorem place_visual? {board : Board} {members : List MemberId}
    (h : Network.Gathered board.network members) {view : View} {v : MemberId}
    (hv : (board.place sheet dataset view).1.visual? = some v) :
    v = board.network.members.length ∧
      v < (board.place sheet dataset view).2.network.members.length ∧
      (board.place sheet dataset view).2.network.listenersOf v selectEvent = [.relay 0] := by
  rw [place] at hv ⊢
  cases hdraw : board.draw (board.visualOf sheet view) [] with
  | ok html =>
    rw [hdraw] at hv
    obtain rfl := Option.some.inj hv
    refine ⟨rfl, ?_, h.listenersOf_enroll _⟩
    simp only [Network.length_join, Network.addMember, List.length_append, List.length_singleton]
    exact Nat.lt_succ_self _
  | error fault =>
    rw [hdraw] at hv
    cases hv

theorem place_listenersOf {board : Board} {v : MemberId} (hv : v < board.network.members.length)
    (view : View) (event : String) :
    (board.place sheet dataset view).2.network.listenersOf v event = board.network.listenersOf v event := by
  rw [place]
  cases board.draw (board.visualOf sheet view) [] with
  | ok html =>
    simp only
    rw [Network.listenersOf_join_of_ne (Nat.ne_of_gt hv), Network.listenersOf_addMember hv]
  | error fault => rfl

theorem placeAll_listenersOf (views : List View) {board : Board} {v : MemberId}
    (hv : v < board.network.members.length) (event : String) :
    (placeAll sheet dataset views board).2.network.listenersOf v event =
      board.network.listenersOf v event := by
  induction views generalizing board with
  | nil => rfl
  | cons view rest ih =>
    have hplaced := Nat.lt_of_lt_of_le hv (place_members_le sheet dataset board view)
    rw [placeAll, ih hplaced, place_listenersOf sheet dataset hv]

/-- What is put up is new, and only the group listens to it. -/
theorem placeAll_visuals (views : List View) {board : Board} {members : List MemberId}
    (h : Network.Gathered board.network members) {v : MemberId}
    (hv : v ∈ (placeAll sheet dataset views board).1.filterMap Slot.visual?) :
    board.network.members.length ≤ v ∧
      (placeAll sheet dataset views board).2.network.listenersOf v selectEvent = [.relay 0] := by
  induction views generalizing board members with
  | nil => exact absurd hv List.not_mem_nil
  | cons view rest ih =>
    rw [placeAll] at hv ⊢
    obtain ⟨slot, hslot, hvisual⟩ := List.mem_filterMap.mp hv
    rcases List.mem_cons.mp hslot with rfl | hrest
    · obtain ⟨rfl, hlt, hlisteners⟩ := place_visual? sheet dataset h hvisual
      exact ⟨Nat.le_refl _, (placeAll_listenersOf sheet dataset rest hlt _).trans hlisteners⟩
    · obtain ⟨hle, hlisteners⟩ :=
        ih (gathered_place sheet dataset h view) (List.mem_filterMap.mpr ⟨slot, hrest, hvisual⟩)
      exact ⟨Nat.le_trans (place_members_le sheet dataset board view) hle, hlisteners⟩

end Placing

/-- Showing the dataset puts the visualization up. -/
def PutsUp (board : Board) (dataset : String) (v : MemberId) : Prop :=
  board.visuals.length ≤ v ∧ v ∈ (board.after (.render dataset)).shown

theorem play_append (board : Board) (first rest : List Move) :
    board.play (first ++ rest) = (board.play first).play rest := List.foldl_append

theorem redraw_network (board : Board) : board.redraw.2.network = board.network := by
  rw [redraw]
  cases board.current <;> rfl

theorem redraw_shown (board : Board) : board.redraw.2.shown = board.shown := by
  rw [redraw]
  cases hcurrent : board.current with
  | none => rfl
  | some panel =>
    rw [shown, shown, hcurrent]
    exact (redrawSlots_keeps board panel.slots).2

namespace Sound

variable {board : Board}

theorem shown_lt (h : Sound board) {v : MemberId} (hv : v ∈ board.shown) : v < board.visuals.length := by
  rw [← h.recorded]
  exact h.gathered.known v hv

/-- A panel that is shown consists of new visualizations that only the group listens to. -/
theorem render_shown (h : Sound board) {dataset : String} {shown : Board}
    (hrender : board.render dataset = .ok shown) {v : MemberId} (hv : v ∈ shown.shown) :
    board.visuals.length ≤ v ∧ shown.network.listenersOf v selectEvent = [.relay 0] := by
  cases hfind : board.book.find dataset with
  | error fault =>
    rw [render_of_find_error hfind] at hrender
    cases hrender
  | ok sheet =>
    rw [render_of_find hfind, Except.ok.injEq] at hrender
    subst hrender
    have hplaced := placeAll_visuals sheet dataset sheet.table.views h.clear.gathered (v := v)
    rw [h.clear.recorded] at hplaced
    generalize placeAll sheet dataset sheet.table.views board.clear = placed at hv hplaced ⊢
    exact hplaced hv

theorem visuals_le (h : Sound board) (move : Move) :
    board.visuals.length ≤ (board.after move).visuals.length := by
  rw [← h.recorded, ← (h.after move).recorded]
  cases move with
  | render dataset =>
    rw [after_render]
    cases hfind : board.book.find dataset with
    | error fault =>
      simp only [render_of_find_error hfind, Nat.le_refl]
    | ok sheet =>
      rw [render_of_find hfind]
      have hplaced := placeAll_members_le sheet dataset sheet.table.views board.clear
      generalize placeAll sheet dataset sheet.table.views board.clear = placed at hplaced ⊢
      rwa [Board.clear, Network.length_dissolve] at hplaced
  | clear => exact Nat.le_of_eq (Network.length_dissolve ..).symm
  | redraw =>
    simp only [after_redraw, redraw_network, Nat.le_refl]
  | select m selection =>
    rw [h.after_select]
    exact Nat.le_of_eq (Network.sameWiring_afterSelect m selection h.gathered.idle).length.symm
  | broadcast m selection =>
    rw [h.after_broadcast]
    have hwiring := Network.sameWiring_afterBroadcast 0 (some m) selection (h.gathered.idle 0)
    exact Nat.le_of_eq hwiring.length.symm
  | unlisten m event => cases event <;> exact Nat.le_of_eq (Network.length_updateMember ..).symm
  | assign | listen => exact Nat.le_of_eq (Network.length_updateMember ..).symm
  | teardown | spoil | mend => exact Nat.le_refl _

/-- What a move leaves on show was on show before, or is put up by the move. -/
theorem shown_of_after (h : Sound board) {move : Move} {v : MemberId} (hv : v ∈ (board.after move).shown) :
    (∃ dataset, move = .render dataset ∧ board.PutsUp dataset v) ∨ v ∈ board.shown := by
  cases move with
  | render dataset =>
    have hafter := hv
    rw [after_render] at hafter
    cases hrender : board.render dataset with
    | ok shown =>
      rw [hrender] at hafter
      exact .inl ⟨dataset, rfl, (h.render_shown hrender hafter).1, hv⟩
    | error fault =>
      rw [hrender] at hafter
      exact .inr hafter
  | clear => exact absurd hv List.not_mem_nil
  | redraw =>
    rw [after_redraw, redraw_shown] at hv
    exact .inr hv
  | select m selection =>
    rw [h.after_select] at hv
    exact .inr hv
  | broadcast m selection =>
    rw [h.after_broadcast] at hv
    exact .inr hv
  | unlisten m event => cases event <;> exact .inr hv
  | assign | listen | teardown | spoil | mend => exact .inr hv

theorem listenersOf_after (h : Sound board) {move : Move} {v : MemberId} (hold : v ∈ board.shown)
    (hv : v ∈ (board.after move).shown) (hkept : ¬ move.Silences v) :
    (board.after move).network.listenersOf v selectEvent = board.network.listenersOf v selectEvent ++
      if move = .listen v selectEvent then [.record] else [] := by
  have hknown := h.gathered.known v hold
  cases move with
  | render dataset =>
    rw [if_neg (by simp), List.append_nil, after_render]
    cases hrender : board.render dataset with
    | ok shown =>
      rw [after_render, hrender] at hv
      exact absurd (h.shown_lt hold) (Nat.not_lt.mpr (h.render_shown hrender hv).1)
    | error fault => rfl
  | clear => exact absurd hv List.not_mem_nil
  | redraw => rw [if_neg (by simp), List.append_nil, after_redraw, redraw_network]
  | select m selection =>
    rw [if_neg (by simp), List.append_nil, h.after_select]
    exact (Network.sameWiring_afterSelect m selection h.gathered.idle).listenersOf v selectEvent
  | broadcast m selection =>
    rw [if_neg (by simp), List.append_nil, h.after_broadcast]
    have hwiring := Network.sameWiring_afterBroadcast 0 (some m) selection (h.gathered.idle 0)
    exact hwiring.listenersOf v selectEvent
  | assign m selection =>
    rw [if_neg (by simp), List.append_nil]
    exact (Network.sameWiring_setSelection board.network m selection).listenersOf v selectEvent
  | listen m event =>
    simp only [Move.listen.injEq]
    exact Network.listenersOf_listen hknown event selectEvent .record
  | unlisten m event =>
    rw [if_neg (by simp), List.append_nil]
    cases event with
    | none => exact Network.listenersOf_updateMember_of_ne (fun hm => hkept ⟨hm, .inl rfl⟩) _ _ _
    | some event =>
      by_cases hevent : event = selectEvent
      · exact Network.listenersOf_updateMember_of_ne (fun hm => hkept ⟨hm, .inr (hevent ▸ rfl)⟩) _ _ _
      · exact Network.listenersOf_unlisten_of_ne hevent m v board.network
  | teardown | spoil | mend => exact (List.append_nil _).symm

/-- While a visualization stays on show and its listeners are not removed, it is listened to by those of the
start and by those that were added since. -/
theorem listenersOf_play (h : Sound board) {moves : List Move} {v : MemberId}
    (hdrawn : v < board.visuals.length) (hv : v ∈ (board.play moves).shown)
    (hkept : ∀ move ∈ moves, ¬ move.Silences v) :
    v ∈ board.shown ∧ (board.play moves).network.listenersOf v selectEvent =
      board.network.listenersOf v selectEvent ++
        List.replicate (moves.count (.listen v selectEvent)) .record := by
  induction moves generalizing board with
  | nil => exact ⟨hv, (List.append_nil _).symm⟩
  | cons move rest ih =>
    obtain ⟨hmid, hrest⟩ := ih (h.after move) (Nat.lt_of_lt_of_le hdrawn (h.visuals_le move)) hv
      fun m hm => hkept m (List.mem_cons_of_mem _ hm)
    have hold : v ∈ board.shown := by
      obtain ⟨dataset, -, hnew, -⟩ | hold := h.shown_of_after hmid
      · exact absurd hdrawn (Nat.not_lt.mpr hnew)
      · exact hold
    refine ⟨hold, ?_⟩
    rw [Board.play, List.foldl_cons, ← Board.play, hrest,
      h.listenersOf_after hold hmid (hkept move List.mem_cons_self), List.append_assoc, List.count_cons]
    by_cases hmove : move = .listen v selectEvent <;> simp [hmove, List.replicate_succ]

/-- Whatever is on show was there at the start or was put up by one of the moves. -/
theorem exists_putsUp (h : Sound board) {moves : List Move} {v : MemberId}
    (hv : v ∈ (board.play moves).shown) : v ∈ board.shown ∨
    ∃ before dataset after, moves = before ++ .render dataset :: after ∧
      (board.play before).PutsUp dataset v := by
  induction moves generalizing board with
  | nil => exact .inl hv
  | cons move rest ih =>
    obtain hmid | ⟨before, dataset, after, rfl, hput⟩ := ih (h.after move) hv
    · obtain ⟨dataset, rfl, hput⟩ | hold := h.shown_of_after hmid
      · exact .inr ⟨[], dataset, rest, rfl, hput⟩
      · exact .inl hold
    · exact .inr ⟨move :: before, dataset, after, rfl, hput⟩

theorem listenersOf_putsUp (h : Sound board) {dataset : String} {v : MemberId}
    (hput : board.PutsUp dataset v) :
    (board.after (.render dataset)).network.listenersOf v selectEvent = [.relay 0] := by
  obtain ⟨hnew, hv⟩ := hput
  rw [after_render] at hv ⊢
  cases hrender : board.render dataset with
  | ok shown =>
    rw [hrender] at hv
    exact (h.render_shown hrender hv).2
  | error fault =>
    rw [hrender] at hv
    exact absurd (h.shown_lt hv) (Nat.not_lt.mpr hnew)

/-- Since it was put up, a visualization that was not silenced is listened to by the group, and then by those
that were added. -/
theorem listenersOf_since (h : Sound board) {before after : List Move} {dataset : String} {v : MemberId}
    (hput : (board.play before).PutsUp dataset v) (hkept : ∀ move ∈ after, ¬ move.Silences v)
    (hv : v ∈ (board.play (before ++ .render dataset :: after)).shown) :
    (board.play (before ++ .render dataset :: after)).network.listenersOf v selectEvent =
      .relay 0 :: List.replicate (after.count (.listen v selectEvent)) .record := by
  have hbefore : Sound (board.play before) := h.play before
  have hrendered := hbefore.after (.render dataset)
  rw [play_append] at hv ⊢
  have hdrawn := hrendered.shown_lt hput.2
  have hsince := (hrendered.listenersOf_play hdrawn hv hkept).2
  rw [hbefore.listenersOf_putsUp hput] at hsince
  exact hsince

theorem reply_select (h : Sound board) (v : MemberId) (selection : Selection) :
    board.reply (.select v selection) = .ok .done := by
  rw [reply, perform, Steps.runOn_map,
    runOn_relaying (Network.runOn_select v selection h.gathered.accepting h.gathered.idle h.hasGroup)]
  rfl

theorem reply_broadcast (h : Sound board) {v : MemberId} (hv : v ∈ board.shown) (selection : Selection) :
    board.reply (.broadcast v selection) = .ok (.reached (board.shown.length - 1)) := by
  have htargets : board.network.targetsOf 0 (some v) = board.shown.erase v := by
    rw [Network.targetsOf, h.gathered.membersOf, h.gathered.nodup.erase_eq_filter]
    refine List.filter_congr fun m _ => ?_
    by_cases hm : m = v
    · simp [hm]
    · simp [hm, Ne.symm hm]
  rw [reply, perform, Steps.runOn_map, runOn_relaying (h.runOn_broadcast v selection), htargets,
    List.length_erase_of_mem hv]
  rfl

end Sound

/-- Behind every run of moves, and for every visualization on show: if its listeners were not removed since
it was put up, what a user selects in it is the selection of all that are on show, and each listener that
was added to it since is called once, no other one being called. Giving it a selection changes nothing
else, and a broadcast on its behalf changes all but it; neither calls a listener. -/
theorem play_agreement (book : Workbook) (width aspect : Double) (moves : List Move) :
    let board := (blank book width aspect).play moves
    ∀ v ∈ board.shown,
      (∃ before dataset after, moves = before ++ .render dataset :: after ∧
        ((blank book width aspect).play before).PutsUp dataset v ∧
        ((∀ move ∈ after, ¬ move.Silences v) → ∀ selection,
          let chosen := board.after (.select v selection)
          board.reply (.select v selection) = .ok .done ∧
          (∀ m ∈ board.shown, chosen.selectionOf m = selection) ∧
          (∀ m < board.visuals.length, m ∉ board.shown → chosen.selectionOf m = board.selectionOf m) ∧
          chosen.network.calls = board.network.calls ++
            List.replicate (after.count (.listen v selectEvent)) (.heard v selectEvent selection))) ∧
      (∀ selection,
        let given := board.after (.assign v selection)
        given.selectionOf v = selection ∧
        (∀ m ≠ v, given.network.members[m]? = board.network.members[m]?) ∧
        given.network.calls = board.network.calls) ∧
      ∀ selection,
        let told := board.after (.broadcast v selection)
        board.reply (.broadcast v selection) = .ok (.reached (board.shown.length - 1)) ∧
        (∀ m ∈ board.shown, m ≠ v → told.selectionOf m = selection) ∧
        (∀ m < board.visuals.length, m ∉ board.shown ∨ m = v → told.selectionOf m = board.selectionOf m) ∧
        told.network.calls = board.network.calls := by
  intro board v hv
  have hblank : Sound (blank book width aspect) := Sound.blank book width aspect
  have hsound : Sound board := hblank.play moves
  have hknown := hsound.gathered.known v hv
  refine ⟨?_, fun selection => ⟨?_, fun m hm => ?_, rfl⟩,
    fun selection => ⟨hsound.reply_broadcast hv selection, ?_⟩⟩
  · obtain hnone | ⟨before, dataset, after, hmoves, hput⟩ := hblank.exists_putsUp hv
    · exact absurd hnone List.not_mem_nil
    refine ⟨before, dataset, after, hmoves, hput, fun hkept selection => ?_⟩
    have hlisteners : board.network.listenersOf v selectEvent =
        .relay 0 :: List.replicate (after.count (.listen v selectEvent)) .record := by
      simp only [board, hmoves] at hv ⊢
      exact hblank.listenersOf_since hput hkept hv
    have hselect := hsound.gathered.afterSelect_of_relay hv hlisteners selection
    refine ⟨hsound.reply_select v selection, ?_⟩
    rw [hsound.after_select, ← hsound.recorded]
    exact hselect
  · exact Network.selectionAt_setSelection_self hknown selection
  · exact List.getElem?_modify_ne _ _ hm.symm
  · have hmembers := hsound.gathered.membersOf
    have hreach (m : MemberId) (hm : m < board.visuals.length) :
        (board.after (.broadcast v selection)).selectionOf m =
          if m ∈ board.network.targetsOf 0 (some v) then selection else board.selectionOf m := by
      rw [hsound.after_broadcast]
      exact Network.selectionAt_afterBroadcast 0 (some v) selection board.network (hsound.recorded ▸ hm)
    refine ⟨fun m hm hne => ?_, fun m hm hout => ?_, ?_⟩
    · rw [hreach m (hsound.shown_lt hm), if_pos (Network.mem_targetsOf.mpr ⟨hmembers ▸ hm, hne⟩)]
    · rw [hreach m hm, if_neg fun htarget => ?_]
      obtain ⟨hin, hne⟩ := Network.mem_targetsOf.mp htarget
      exact hout.elim (fun hm => hm (hmembers ▸ hin)) hne
    · rw [hsound.after_broadcast]
      exact Network.calls_afterBroadcast ..

/-- A workbook of one dataset without records. -/
def withoutRecords : Workbook :=
  [("d", {
    dataset := { name := "d", uncompressedSize := Double.ofInt 0, records := [] }
    table := {
      dataset := "d"
      columns := resultColumns
      frame := resultColumns.map fun column => (column.name, [])
      warnings := [] }
    id := "ds0-d" })]

/-- Two listeners are added to different visualizations of a panel before a selection in the third. -/
theorem play_agreement_listened :
    let moves : List Move := [.render "d", .listen 1 selectEvent, .listen 2 selectEvent]
    let board := (blank withoutRecords defaultWidth defaultAspect).play moves
    2 ∈ board.shown ∧
      (∀ m ∈ board.shown, (board.after (.select 2 [⟨some 0, none⟩])).selectionOf m = [⟨some 0, none⟩]) ∧
      board.reply (.broadcast 2 []) = .ok (.reached (board.shown.length - 1)) := by
  intro moves board
  have hshown : 2 ∈ board.shown := by decide +kernel
  obtain ⟨⟨before, dataset, after, hmoves, _, hselect⟩, _, hbroadcast⟩ :=
    play_agreement withoutRecords defaultWidth defaultAspect moves 2 hshown
  have hkept : ∀ move ∈ after, ¬ move.Silences 2 := by
    intro move hmove
    have hin : move ∈ moves := by
      rw [hmoves]
      exact List.mem_append_right _ (List.mem_cons_of_mem _ hmove)
    simp only [moves, List.mem_cons, List.not_mem_nil, or_false] at hin
    obtain rfl | rfl | rfl := hin <;> exact id
  exact ⟨hshown, (hselect hkept [⟨some 0, none⟩]).2.1, (hbroadcast []).1⟩

end Board

end CodecReport
