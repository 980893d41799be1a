import CodecReport.Text.Split

/-!
# Splitting what was joined

Pieces without a mark are got back from the text that has the mark between them, and a text is cut where the mark
first occurs.
-/

namespace CodecReport.Text

variable {mark : Char} {cs piece : List Char}

theorem splitAt_of_not_mem (hcs : mark ∉ cs) : splitAt mark cs = [cs] := by
  induction cs with
  | nil => rfl
  | cons c rest ih =>
    rw [List.mem_cons, not_or] at hcs
    rw [splitAt, if_neg (Ne.symm hcs.1), ih hcs.2]

theorem splitAt_append_cons (hpiece : mark ∉ piece) (rest : List Char) :
    splitAt mark (piece ++ mark :: rest) = piece :: splitAt mark rest := by
  induction piece with
  | nil => rw [List.nil_append, splitAt, if_pos rfl]
  | cons c more ih =>
    rw [List.mem_cons, not_or] at hpiece
    rw [List.cons_append, splitAt, if_neg (Ne.symm hpiece.1), ih hpiece.2]

theorem joinWith_cons_of_ne_nil (piece : List Char) {more : List (List Char)} (hne : more ≠ []) :
    joinWith mark (piece :: more) = piece ++ mark :: joinWith mark more := by
  cases more with
  | nil => exact absurd rfl hne
  | cons next later => rfl

theorem intercalate_eq_joinWith (pieces : List (List Char)) : [mark].intercalate pieces = joinWith mark pieces := by
  induction pieces with
  | nil => rfl
  | cons piece more ih =>
    cases more with
    | nil => simp [joinWith]
    | cons next later =>
      rw [List.intercalate_cons_cons, ih, joinWith_cons_of_ne_nil piece (List.cons_ne_nil _ _)]
      simp

theorem splitAt_joinWith {pieces : List (List Char)} (hpieces : ∀ piece ∈ pieces, mark ∉ piece)
    (hne : pieces ≠ []) : splitAt mark (joinWith mark pieces) = pieces := by
  induction pieces with
  | nil => exact absurd rfl hne
  | cons piece more ih =>
    obtain ⟨hpiece, hmore⟩ := List.forall_mem_cons.mp hpieces
    cases more with
    | nil => exact splitAt_of_not_mem hpiece
    | cons next later =>
      have hne : next :: later ≠ [] := List.cons_ne_nil next later
      rw [joinWith_cons_of_ne_nil piece hne, splitAt_append_cons hpiece, ih hmore hne]

theorem not_mem_joinWith {other : Char} (hne : mark ≠ other) {pieces : List (List Char)}
    (hpieces : ∀ piece ∈ pieces, mark ∉ piece) : mark ∉ joinWith other pieces := by
  induction pieces with
  | nil => exact List.not_mem_nil
  | cons piece more ih =>
    obtain ⟨hpiece, hmore⟩ := List.forall_mem_cons.mp hpieces
    by_cases hlast : more = []
    · rwa [hlast]
    · rw [joinWith_cons_of_ne_nil piece hlast, List.mem_append, List.mem_cons]
      exact fun hmem => hmem.elim hpiece fun hmem => hmem.elim hne (ih hmore)

theorem mem_joinWith_of_mem {c : Char} {pieces : List (List Char)} (hpiece : piece ∈ pieces) (hc : c ∈ piece) :
    c ∈ joinWith mark pieces := by
  induction pieces with
  | nil => cases hpiece
  | cons first more ih =>
    cases more with
    | nil => rwa [joinWith, ← List.mem_singleton.mp hpiece]
    | cons next later =>
      rw [joinWith_cons_of_ne_nil first (List.cons_ne_nil _ _), List.mem_append, List.mem_cons]
      rcases List.mem_cons.mp hpiece with rfl | hmore
      · exact .inl hc
      · exact .inr (.inr (ih hmore))

theorem not_mem_of_mem_splitAt (hpiece : piece ∈ splitAt mark cs) : mark ∉ piece := by
  induction cs generalizing piece with
  | nil =>
    rw [List.mem_singleton.mp hpiece]
    exact List.not_mem_nil
  | cons c rest ih =>
    by_cases hc : c = mark
    · rw [splitAt, if_pos hc] at hpiece
      rcases List.mem_cons.mp hpiece with rfl | hmore
      · exact List.not_mem_nil
      · exact ih hmore
    · cases hsplit : splitAt mark rest with
      | nil => exact absurd hsplit (splitAt_ne_nil mark rest)
      | cons first more =>
        rw [splitAt, if_neg hc, hsplit] at hpiece
        rcases List.mem_cons.mp hpiece with rfl | hmore
        · rw [List.mem_cons, not_or]
          exact ⟨Ne.symm hc, ih (hsplit ▸ List.mem_cons_self)⟩
        · exact ih (hsplit ▸ List.mem_cons_of_mem _ hmore)

theorem bne_of_not_mem (hcs : mark ∉ cs) : ∀ c ∈ cs, (c != mark) = true := by
  intro c hc
  rw [bne_iff_ne]
  rintro rfl
  exact hcs hc

theorem cutAt_append_cons (hpiece : mark ∉ piece) (rest : List Char) :
    cutAt mark (piece ++ mark :: rest) = (piece, some rest) := by
  have hdrop : (piece ++ mark :: rest).dropWhile (· != mark) = mark :: rest := by
    rw [List.dropWhile_append_of_pos (bne_of_not_mem hpiece), List.dropWhile_cons_of_neg (by simp)]
  have htake : (piece ++ mark :: rest).takeWhile (· != mark) = piece := by
    rw [List.takeWhile_append_of_pos (bne_of_not_mem hpiece), List.takeWhile_cons_of_neg (by simp), List.append_nil]
  rw [cutAt, hdrop, htake]

theorem cutAt_of_not_mem (hcs : mark ∉ cs) : cutAt mark cs = (cs, none) := by
  have hdrop : (cs ++ []).dropWhile (· != mark) = [] :=
    List.dropWhile_append_of_pos (bne_of_not_mem hcs)
  rw [List.append_nil] at hdrop
  rw [cutAt, hdrop]

end CodecReport.Text
