/-!
# Splitting text

A text is cut at every occurrence of a character, or at the first one only. Joining the pieces with that
character gives the text back.
-/

namespace CodecReport.Text

/-- The pieces between the occurrences of a character: one more than there are occurrences. -/
def splitAt (mark : Char) : List Char → List (List Char)
  | [] => [[]]
  | c :: rest =>
    if c = mark then [] :: splitAt mark rest
    else match splitAt mark rest with
      | [] => [[c]]
      | piece :: more => (c :: piece) :: more

/-- The text before the first occurrence of a character and, if there is one, the text behind it. -/
def cutAt (mark : Char) (cs : List Char) : List Char × Option (List Char) :=
  match cs.dropWhile (· != mark) with
  | [] => (cs, none)
  | _ :: rest => (cs.takeWhile (· != mark), some rest)

/-- The pieces with a character between them. -/
def joinWith (mark : Char) : List (List Char) → List Char
  | [] => []
  | [piece] => piece
  | piece :: more => piece ++ mark :: joinWith mark more

theorem splitAt_ne_nil (mark : Char) (cs : List Char) : splitAt mark cs ≠ [] := by
  cases cs with
  | nil => simp [splitAt]
  | cons c rest =>
    by_cases hc : c = mark
    · simp [splitAt, hc]
    · simp only [splitAt, hc, if_false]
      split <;> simp

theorem joinWith_splitAt (mark : Char) (cs : List Char) : joinWith mark (splitAt mark cs) = cs := by
  induction cs with
  | nil => rfl
  | cons c rest ih =>
    by_cases hc : c = mark
    · subst hc
      simp only [splitAt, if_true]
      cases hs : splitAt c rest with
      | nil => exact absurd hs (splitAt_ne_nil c rest)
      | cons piece more => rw [hs] at ih; simp [joinWith, ih]
    · simp only [splitAt, hc, if_false]
      cases hs : splitAt mark rest with
      | nil => exact absurd hs (splitAt_ne_nil mark rest)
      | cons piece more =>
        rw [hs] at ih
        cases more <;> simp_all [joinWith]

def lines (s : String) : List String :=
  (splitAt '\n' s.toList).map String.ofList

def dropFinalLineFeed (cs : List Char) : List Char :=
  if cs.getLast? = some '\n' then cs.dropLast else cs

end CodecReport.Text
