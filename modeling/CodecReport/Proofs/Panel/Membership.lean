import CodecReport.Proofs.Panel.Upkeep

/-!
# Who belongs to the group

Runs of moves on a board, from a blank one on. In every state that a run reaches the group consists of
exactly the visualizations on show, visualizations of earlier panels reach nobody, and a panel that cannot
be shown because its dataset is unknown, or because the datasets were forgotten, changes nothing at all.
-/

namespace CodecReport.Board

theorem runOn_relaying_book {α : Type} (board : Board) (steps : Network.Step α) :
    (Steps.runOn board (relaying steps)).2.book = board.book := by
  rcases hrun : Steps.runOn board.network steps with ⟨outcome, net⟩
  rw [runOn_relaying hrun]

theorem redraw_book (board : Board) : board.redraw.2.book = board.book := by
  rw [redraw]
  cases board.current <;> rfl

/-- Only forgetting the datasets takes them from a board. -/
theorem after_book (board : Board) (move : Move) :
    (board.after move).book = if move = .teardown then [] else board.book := by
  cases move with
  | render dataset =>
    rw [after_render, if_neg (by simp)]
    cases hfind : board.book.find dataset with
    | error fault => rw [render_of_find_error hfind]
    | ok sheet =>
      simp only [render_of_find hfind, showing_book, placeAll_book]
      rfl
  | redraw =>
    rw [after_redraw, if_neg (by simp)]
    exact redraw_book board
  | select m selection =>
    rw [if_neg (by simp), after, perform, Steps.runOn_map]
    exact runOn_relaying_book board (Network.select m selection)
  | broadcast m selection =>
    rw [if_neg (by simp), after, perform, Steps.runOn_map]
    exact runOn_relaying_book board (Network.broadcast panelGroup (some m) selection)
  | unlisten m event =>
    rw [if_neg (by simp)]
    cases event <;> rfl
  | teardown => rfl
  | clear | assign | listen | spoil | mend =>
    rw [if_neg (by simp)]
    rfl

theorem play_book (board : Board) (moves : List Move) :
    (board.play moves).book = if .teardown ∈ moves then [] else board.book := by
  induction moves generalizing board with
  | nil => rfl
  | cons move rest ih =>
    rw [play, List.foldl_cons, ← play, ih, after_book]
    by_cases hrest : Move.teardown ∈ rest <;> by_cases hmove : move = .teardown <;>
      simp [hrest, hmove, eq_comm]

theorem reply_render_eq_error_iff {board : Board} {name : String} {fault : MoveFault} :
    board.reply (.render name) = .error fault ↔
      name ∉ board.book.names ∧ fault = .board (.unknownDataset name) := by
  rw [reply_render]
  cases hrender : board.render name with
  | error found =>
    obtain ⟨hname, rfl⟩ := render_eq_error_iff.mp hrender
    simp [hname, eq_comm]
  | ok shown =>
    have hknown : name ∈ board.book.names := by
      refine Decidable.byContradiction fun hname => ?_
      rw [render_eq_error_iff.mpr ⟨hname, rfl⟩] at hrender
      cases hrender
    simp [hknown]

/-- Behind every run of moves the group consists of what is on show, in the order of the views and without
repetition; a selection in any other visualization is taken by that one alone; and showing a panel fails
exactly for datasets that are unknown or were forgotten, which leaves the whole board as it was. -/
theorem play_membership (book : Workbook) (width aspect : Double) (moves : List Move) :
    let board := (blank book width aspect).play moves
    (board.members = board.shown ∧ board.members.Nodup ∧ (board.current = none → board.members = []) ∧
      ∀ panel, board.current = some panel →
        panel.slots.map Slot.viewId = ViewPlan.standard.map ViewPlan.id ∧
        board.members = panel.slots.filterMap Slot.visual?) ∧
    (∀ m, m ∉ board.shown → ∀ selection,
      (m < board.visuals.length → (board.after (.select m selection)).selectionOf m = selection) ∧
      ∀ other, other ≠ m →
        (board.after (.select m selection)).selectionOf other = board.selectionOf other) ∧
    ∀ name,
      (board.reply (.render name) = .error (.board (.unknownDataset name)) ↔
        name ∉ book.names ∨ .teardown ∈ moves) ∧
      ∀ fault, board.reply (.render name) = .error fault → board.after (.render name) = board := by
  intro board
  have hsound : Sound board := Sound.play moves (Sound.blank book width aspect)
  have hmembers : board.members = board.shown := hsound.gathered.membersOf
  refine ⟨⟨hmembers, hmembers ▸ hsound.gathered.nodup, fun hnone => ?_, fun panel hpanel => ?_⟩,
    fun m hm selection => ⟨fun hdrawn => ?_, fun other hne => ?_⟩, fun name => ⟨?_, fun fault hfault => ?_⟩⟩
  · rw [hmembers, shown, hnone]
    rfl
  · refine ⟨hsound.declared hpanel, ?_⟩
    rw [hmembers, shown, hpanel]
    rfl
  · rw [← hsound.recorded] at hdrawn
    rw [hsound.after_select]
    exact (hsound.gathered.selectionAt_afterSelect hm selection m).trans
      (Network.selectionAt_setSelection_self hdrawn selection)
  · rw [hsound.after_select]
    exact (hsound.gathered.selectionAt_afterSelect hm selection other).trans
      (Network.selectionAt_setSelection_of_ne hne selection board.network)
  · have hbook : board.book = if .teardown ∈ moves then [] else book := play_book _ moves
    rw [reply_render_eq_error_iff, hbook]
    by_cases htorn : Move.teardown ∈ moves
    · simp [htorn, Workbook.names, Entries.keys]
    · simp [htorn]
  · obtain ⟨hname, _⟩ := reply_render_eq_error_iff.mp hfault
    rw [after_render, render_eq_error_iff.mpr ⟨hname, rfl⟩]

end CodecReport.Board
