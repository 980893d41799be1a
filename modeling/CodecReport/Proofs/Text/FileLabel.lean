import CodecReport.Proofs.Text.Label
import Mathlib.Data.List.DropRight

/-!
# Labels of files

A name becomes a label of a file in three steps: runs of characters that may not stand there become one
mark, the marks at both ends are dropped, and what is longer than the limit is cut. A label that any name
gives again is one that is short enough, is made of the permitted characters and has a mark at neither end.
The cut is the last step, so it can leave marks at the end of a label. A second round drops them, and from
there on nothing changes.
-/

namespace CodecReport.Text

/-! ### Replacing and trimming -/

theorem replaceRuns_of_forall {keep : Char → Bool} {cs : List Char} (hkeep : ∀ c ∈ cs, keep c = true)
    (mark : Char) (inRun : Bool) : replaceRuns keep mark inRun cs = cs := by
  induction cs generalizing inRun with
  | nil => rfl
  | cons c rest ih =>
    obtain ⟨hfirst, hrest⟩ := List.forall_mem_cons.mp hkeep
    rw [replaceRuns, if_pos hfirst, ih hrest]

section Trim

variable {drop : Char → Bool} {cs : List Char} {c : Char}

theorem trimBy_eq (drop : Char → Bool) (cs : List Char) :
    trimBy drop cs = (cs.dropWhile drop).rdropWhile drop :=
  rfl

/-- Where the first character stays, only the end is trimmed. -/
theorem trimBy_of_head? (hfirst : ∀ c ∈ cs.head?, drop c = false) : trimBy drop cs = cs.rdropWhile drop := by
  have hfront : cs.dropWhile drop = cs := by
    cases cs with
    | nil => rfl
    | cons c rest =>
      apply List.dropWhile_cons_of_neg
      simp [hfirst c rfl]
  rw [trimBy_eq, hfront]

theorem not_drop_of_head?_trimBy (hc : c ∈ (trimBy drop cs).head?) : drop c = false := by
  -- trimming the end leaves a first part of what begins behind the dropped characters
  obtain ⟨dropped, hsplit⟩ := List.rdropWhile_prefix drop (cs.dropWhile drop)
  have hfirst : (cs.dropWhile drop).head? = some c := by
    rw [← hsplit, List.head?_append, ← trimBy_eq, Option.mem_def.mp hc]
    rfl
  have hkept := List.head?_dropWhile_not drop cs
  rwa [hfirst] at hkept

theorem not_drop_of_getLast?_trimBy (hc : c ∈ (trimBy drop cs).getLast?) : drop c = false := by
  obtain ⟨hne, rfl⟩ := List.mem_getLast?_eq_getLast hc
  exact Bool.eq_false_iff.mpr (List.rdropWhile_last_not drop (cs.dropWhile drop) hne)

end Trim

/-! ### Labels that stay as they are -/

/-- A text that can be a label of a file as it is. -/
structure NormalLabel (s : String) : Prop where
  short : s.length ≤ fileLabelLimit
  chars : ∀ c ∈ s.toList, c.isAlphanum ∨ c = '.' ∨ c = '_' ∨ c = '-'
  first : s.toList.head? ≠ some '_'
  last : s.toList.getLast? ≠ some '_'

theorem isFileChar_iff {c : Char} : isFileChar c = true ↔ c.isAlphanum ∨ c = '.' ∨ c = '_' ∨ c = '-' := by
  simp only [isFileChar, isIdChar, Bool.or_eq_true, beq_iff_eq]
  tauto

/-- What a name is written as before it is cut. -/
def wholeLabel (name : String) : List Char :=
  trimBy (· == '_') (replaceRuns isFileChar '_' false name.toList)

variable (name : String)

theorem toList_fileLabel : (fileLabel name).toList = (wholeLabel name).take fileLabelLimit :=
  String.toList_ofList

theorem length_fileLabel_le : (fileLabel name).length ≤ fileLabelLimit := by
  rw [← String.length_toList, toList_fileLabel]
  exact List.length_take_le ..

theorem isFileChar_of_mem_fileLabel {c : Char} (hc : c ∈ (fileLabel name).toList) : isFileChar c = true := by
  rw [toList_fileLabel] at hc
  rcases of_mem_replaceRuns (mem_of_mem_trimBy (List.mem_of_mem_take hc)) with hkeep | rfl
  · exact hkeep
  · decide

theorem head?_fileLabel_ne : (fileLabel name).toList.head? ≠ some '_' := by
  intro hfirst
  rw [toList_fileLabel, List.head?_take, if_neg (by decide)] at hfirst
  exact absurd (not_drop_of_head?_trimBy hfirst) (by decide)

/-- A label ends with a mark when the cut is made right behind one. -/
theorem getLast?_fileLabel_iff :
    (fileLabel name).toList.getLast? = some '_' ↔ (wholeLabel name)[fileLabelLimit - 1]? = some '_' := by
  have hwhole : (wholeLabel name).getLast? ≠ some '_' := by
    intro hlast
    exact absurd (not_drop_of_getLast?_trimBy hlast) (by decide)
  rw [toList_fileLabel, List.getLast?_take, if_neg (by decide), Option.or_eq_some_iff]
  constructor
  · rintro (hcut | ⟨-, hlast⟩)
    · exact hcut
    · exact absurd hlast hwhole
  · exact .inl

theorem rdropWhile_mark_eq_self_iff {cs : List Char} :
    cs.rdropWhile (· == '_') = cs ↔ cs.getLast? ≠ some '_' := by
  rw [List.rdropWhile_eq_self_iff]
  constructor
  · intro hkept hlast
    obtain ⟨hne, hmark⟩ := List.mem_getLast?_eq_getLast hlast
    exact hkept hne (by simp [← hmark])
  · intro hlast hne hmark
    apply hlast
    rw [List.getLast?_eq_getLast_of_ne_nil hne, beq_iff_eq.mp hmark]

/-- Of a text that keeps its characters and its beginning, only the end is trimmed before the cut. -/
theorem toList_fileLabel_of_chars {s : String} (hshort : s.length ≤ fileLabelLimit)
    (hchars : ∀ c ∈ s.toList, isFileChar c = true) (hfirst : s.toList.head? ≠ some '_') :
    (fileLabel s).toList = s.toList.rdropWhile (· == '_') := by
  have hkept : ∀ c ∈ s.toList.head?, (c == '_') = false := by
    intro c hc
    rw [beq_eq_false_iff_ne]
    rintro rfl
    exact hfirst hc
  have hwhole : wholeLabel s = s.toList.rdropWhile (· == '_') := by
    rw [wholeLabel, replaceRuns_of_forall hchars, trimBy_of_head? hkept]
  have hlength : (s.toList.rdropWhile (· == '_')).length ≤ fileLabelLimit := by
    calc (s.toList.rdropWhile (· == '_')).length
      _ ≤ s.toList.length := (List.rdropWhile_prefix _ _).length_le
      _ = s.length := String.length_toList
      _ ≤ fileLabelLimit := hshort
  rw [toList_fileLabel, hwhole, List.take_of_length_le hlength]

/-- A second round drops the marks that the cut has left at the end. -/
theorem toList_fileLabel_fileLabel :
    (fileLabel (fileLabel name)).toList = (fileLabel name).toList.rdropWhile (· == '_') :=
  toList_fileLabel_of_chars (length_fileLabel_le name) (fun _ hc => isFileChar_of_mem_fileLabel name hc)
    (head?_fileLabel_ne name)

/-- Labels that are given again are the normal ones. -/
theorem fileLabel_eq_self_iff {s : String} : fileLabel s = s ↔ NormalLabel s := by
  constructor
  · intro hself
    have htrimmed := toList_fileLabel_fileLabel s
    have hchars := fun c => isFileChar_of_mem_fileLabel (c := c) s
    have hfirst := head?_fileLabel_ne s
    have hshort := length_fileLabel_le s
    simp only [hself] at htrimmed hchars hfirst hshort
    exact ⟨hshort, fun c hc => isFileChar_iff.mp (hchars c hc), hfirst,
      rdropWhile_mark_eq_self_iff.mp htrimmed.symm⟩
  · intro hnormal
    rw [← String.toList_inj, toList_fileLabel_of_chars hnormal.short
      (fun c hc => isFileChar_iff.mpr (hnormal.chars c hc)) hnormal.first]
    exact rdropWhile_mark_eq_self_iff.mpr hnormal.last

theorem normalLabel_fileLabel_iff :
    NormalLabel (fileLabel name) ↔ (wholeLabel name)[fileLabelLimit - 1]? ≠ some '_' := by
  rw [← fileLabel_eq_self_iff, ← String.toList_inj, toList_fileLabel_fileLabel, rdropWhile_mark_eq_self_iff, Ne,
    getLast?_fileLabel_iff]

/-- The label of a label is normal. -/
theorem normalLabel_fileLabel_fileLabel : NormalLabel (fileLabel (fileLabel name)) := by
  rw [← fileLabel_eq_self_iff, ← String.toList_inj, toList_fileLabel_fileLabel, toList_fileLabel_fileLabel,
    List.rdropWhile_idempotent]

/-- A label of a file is short, made of the permitted characters and begins with no mark. It is a normal form
unless the cut is made right behind a mark, and then the label of the label is: it lacks the marks at the end. -/
theorem fileLabel_normal_unless_cut :
    (fileLabel name).length ≤ 120 ∧
      (∀ c ∈ (fileLabel name).toList, c.isAlphanum ∨ c = '.' ∨ c = '_' ∨ c = '-') ∧
      (fileLabel name).toList.head? ≠ some '_' ∧
      ((fileLabel name).toList.getLast? = some '_' ↔ (wholeLabel name)[119]? = some '_') ∧
      (fileLabel (fileLabel name) = fileLabel name ↔ (wholeLabel name)[119]? ≠ some '_') ∧
      (fileLabel (fileLabel name)).toList = (fileLabel name).toList.rdropWhile (· == '_') ∧
      NormalLabel (fileLabel (fileLabel name)) ∧
      fileLabel (fileLabel (fileLabel name)) = fileLabel (fileLabel name) := by
  have hlimit : fileLabelLimit - 1 = 119 := rfl
  have hends := getLast?_fileLabel_iff name
  have hstays := fileLabel_eq_self_iff.trans (normalLabel_fileLabel_iff name)
  have hnormal := normalLabel_fileLabel_fileLabel name
  rw [hlimit] at hends hstays
  refine ⟨length_fileLabel_le name, ?_, head?_fileLabel_ne name, hends, hstays, toList_fileLabel_fileLabel name,
    hnormal, fileLabel_eq_self_iff.mpr hnormal⟩
  intro c hc
  exact isFileChar_iff.mp (isFileChar_of_mem_fileLabel name hc)

/-- The characters of a name that is cut right behind the mark in it. -/
def cutBehindMark : List Char :=
  List.replicate 119 'a' ++ [' ', 'b']

theorem fileLabel_keeps_mark : (fileLabel (String.ofList cutBehindMark)).toList.getLast? = some '_' ∧
    fileLabel (fileLabel (String.ofList cutBehindMark)) ≠ fileLabel (String.ofList cutBehindMark) := by
  have hmark : (wholeLabel (String.ofList cutBehindMark))[119]? = some '_' := by
    rw [wholeLabel, String.toList_ofList]
    decide +kernel
  constructor
  · exact (getLast?_fileLabel_iff _).mpr hmark
  · intro hsame
    exact (normalLabel_fileLabel_iff _).mp (fileLabel_eq_self_iff.mp hsame) hmark

end CodecReport.Text
