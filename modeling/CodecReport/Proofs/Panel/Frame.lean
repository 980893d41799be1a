import CodecReport.Proofs.Panel.Depiction

/-!
# What panels are made from

Of all that is done to a board only forgetting the datasets, making forms fail and mending them changes
what its panels are made from, and nothing changes the size of its charts.
-/

namespace CodecReport

/-- The move changes what panels are made from. -/
def Move.Reframes : Move → Prop
  | .teardown | .spoil .. | .mend => True
  | _ => False

namespace Board

variable {board : Board}

theorem sameFrame_redraw (board : Board) : SameFrame board board.redraw.2 := by
  rw [redraw]
  cases board.current <;> exact ⟨rfl, rfl, rfl, rfl⟩

theorem Sound.after_sameFrame (h : Sound board) {move : Move} (hkept : ¬ move.Reframes) :
    SameFrame board (board.after move) := by
  cases move with
  | render dataset =>
    rw [after_render]
    cases hfind : board.book.find dataset with
    | error fault =>
      rw [render_of_find_error hfind]
      exact .refl board
    | ok sheet =>
      obtain ⟨shown, hrender, _, hframe, _⟩ := h.render_depicts hfind
      rw [hrender]
      exact hframe
  | redraw =>
    rw [after_redraw]
    exact sameFrame_redraw board
  | select m selection =>
    rw [h.after_select]
    exact ⟨rfl, rfl, rfl, rfl⟩
  | broadcast m selection =>
    rw [h.after_broadcast]
    exact ⟨rfl, rfl, rfl, rfl⟩
  | unlisten m event => cases event <;> exact ⟨rfl, rfl, rfl, rfl⟩
  | clear | assign | listen => exact ⟨rfl, rfl, rfl, rfl⟩
  | teardown | spoil | mend => exact absurd trivial hkept

theorem Sound.after_scale (h : Sound board) (move : Move) :
    (board.after move).width = board.width ∧ (board.after move).aspect = board.aspect := by
  by_cases hkept : move.Reframes
  · cases move with
    | teardown | spoil | mend => exact ⟨rfl, rfl⟩
    | _ => exact hkept.elim
  · have hframe := h.after_sameFrame hkept
    exact ⟨hframe.width, hframe.aspect⟩

theorem Sound.play_scale (h : Sound board) (moves : List Move) :
    (board.play moves).width = board.width ∧ (board.play moves).aspect = board.aspect := by
  induction moves generalizing board with
  | nil => exact ⟨rfl, rfl⟩
  | cons move rest ih =>
    obtain ⟨hwidth, haspect⟩ := ih (h.after move)
    obtain ⟨hfirst, hsecond⟩ := h.after_scale move
    exact ⟨hwidth.trans hfirst, haspect.trans hsecond⟩

theorem Sound.play_sameFrame (h : Sound board) {moves : List Move} (hkept : ∀ move ∈ moves, ¬ move.Reframes) :
    SameFrame board (board.play moves) := by
  induction moves generalizing board with
  | nil => exact .refl board
  | cons move rest ih =>
    have hfirst := h.after_sameFrame (hkept move List.mem_cons_self)
    exact hfirst.trans (ih (h.after move) fun other hother => hkept other (List.mem_cons_of_mem _ hother))

end Board

end CodecReport
