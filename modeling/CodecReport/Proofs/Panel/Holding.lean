import CodecReport.Proofs.Panel.Depiction

/-!
# What the panel on show holds

Nothing is selected in a panel that was just put up, whatever the panels before it held. A selection that the group
relays is held by all that is on show, and drawing again does not change it.
-/

namespace CodecReport

namespace Network

theorem selectionAt_addMember {v : MemberId} {net : Network} (hv : v < net.members.length) (member : Member) :
    (addMember member net).selectionAt v = net.selectionAt v := by
  rw [selectionAt, selectionAt, addMember]
  simp only
  rw [List.getElem?_append_left hv]

theorem selectionAt_addMember_self (member : Member) (net : Network) :
    (addMember member net).selectionAt net.members.length = member.selection := by
  rw [selectionAt, addMember]
  simp only
  rw [List.getElem?_concat_length]
  rfl

/-- To join a group is to be heard by it, and selects nothing. -/
theorem selectionAt_join (g : GroupId) (m v : MemberId) (net : Network) :
    (join g m net).selectionAt v = net.selectionAt v := by
  rw [join]
  split
  next => rfl
  next =>
    rw [listen, selectionAt, updateMember, selectionAt]
    simp only [List.getElem?_modify]
    cases hmember : (updateGroup g (fun group => { group with members := group.members ++ [m] }) net).members[v]? with
    | none =>
      rw [show net.members[v]? = none from hmember]
      rfl
    | some member =>
      rw [show net.members[v]? = some member from hmember]
      by_cases hv : m = v <;> simp [hv]

end Network

namespace Board

/-- All that is on show holds this selection. -/
def Holding (board : Board) (selection : Selection) : Prop :=
  ∀ m ∈ board.shown, board.selectionOf m = selection

section Placing

variable (sheet : Sheet) (dataset : String) {board : Board} {v : MemberId}

theorem selectionOf_place_of_lt (hv : v < board.network.members.length) (view : View) :
    (board.place sheet dataset view).2.selectionOf v = board.selectionOf v := by
  rw [place]
  cases board.draw (board.visualOf sheet view) [] with
  | ok html => exact (Network.selectionAt_join ..).trans (Network.selectionAt_addMember hv _)
  | error fault => rfl

theorem selectionOf_place {view : View} (hv : (board.place sheet dataset view).1.visual? = some v) :
    (board.place sheet dataset view).2.selectionOf v = [] := by
  rw [place] at hv ⊢
  cases hdraw : board.draw (board.visualOf sheet view) [] with
  | ok html =>
    rw [hdraw] at hv
    obtain rfl := Option.some.inj hv
    exact (Network.selectionAt_join ..).trans (Network.selectionAt_addMember_self ..)
  | error fault =>
    rw [hdraw] at hv
    cases hv

theorem selectionOf_placeAll_of_lt (views : List View) (hv : v < board.network.members.length) :
    (placeAll sheet dataset views board).2.selectionOf v = board.selectionOf v := by
  induction views generalizing board with
  | nil => rfl
  | cons view rest ih =>
    have hplaced := Nat.lt_of_lt_of_le hv (place_members_le sheet dataset board view)
    rw [placeAll, ih hplaced, selectionOf_place_of_lt sheet dataset hv]

/-- What is put up holds nothing; what is put up after it does not change that. -/
theorem selectionOf_placeAll (views : List View) {members : List MemberId}
    (h : Network.Gathered board.network members)
    (hv : v ∈ (placeAll sheet dataset views board).1.filterMap Slot.visual?) :
    (placeAll sheet dataset views board).2.selectionOf v = [] := by
  induction views generalizing board members with
  | nil => exact absurd hv List.not_mem_nil
  | cons view rest ih =>
    rw [placeAll] at hv ⊢
    obtain ⟨slot, hslot, hvisual⟩ := List.mem_filterMap.mp hv
    rcases List.mem_cons.mp hslot with rfl | hrest
    · have hknown := (place_visual? sheet dataset h hvisual).2.1
      exact (selectionOf_placeAll_of_lt sheet dataset rest hknown).trans (selectionOf_place sheet dataset hvisual)
    · exact ih (gathered_place sheet dataset h view) (List.mem_filterMap.mpr ⟨slot, hrest, hvisual⟩)

end Placing

namespace Sound

variable {board : Board}

theorem render_holding (h : Sound board) {dataset : String} {shown : Board}
    (hrender : board.render dataset = .ok shown) : shown.Holding [] := by
  cases hfind : board.book.find dataset with
  | error fault =>
    rw [render_of_find_error hfind] at hrender
    cases hrender
  | ok sheet =>
    rw [render_of_find hfind, Except.ok.injEq] at hrender
    subst hrender
    intro v hv
    exact selectionOf_placeAll sheet dataset sheet.table.views h.clear.gathered hv

/-- A selection in a visualization that the group alone listens to is held by the whole panel. -/
theorem select_holding (h : Sound board) {m : MemberId} (hm : m ∈ board.shown)
    (hlisteners : board.network.listenersOf m selectEvent = [.relay 0]) (selection : Selection) :
    (board.select m selection).redraw.2.Holding selection := by
  have hone : board.network.listenersOf m selectEvent = .relay 0 :: List.replicate 0 .record := hlisteners
  intro v hv
  rw [redraw_shown, h.select_eq] at hv
  rw [selectionOf, redraw_network, h.select_eq]
  exact (h.gathered.afterSelect_of_relay hm hone selection).1 v hv

end Sound

end Board

end CodecReport
