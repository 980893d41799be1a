import CodecReport.Disk.Path
import CodecReport.Proofs.Number.Numeral
import CodecReport.Proofs.Outcome
import CodecReport.Proofs.Text.Split
import CodecReport.Workbook

/-!
# Ids

An id is `ds`, a position, a dash and what is left of a name. Its characters are letters and digits of ASCII,
`_` and `-`, so that it stands in a page and in a path as it is. The digits of the position end at the dash, so
the position can be read off an id, whatever the name is and whatever is put behind the id.
-/

namespace CodecReport

namespace Text

/-! ### Characters of labels -/

theorem isFileChar_of_isIdChar {c : Char} (hc : isIdChar c = true) : isFileChar c = true := by
  rw [isFileChar, hc, Bool.true_or]

theorem isIdChar_of_isAsciiDigit {c : Char} (hc : isAsciiDigit c = true) : isIdChar c = true := by
  have hdigit : c.isDigit = true := hc
  simp [isIdChar, Char.isAlphanum, hdigit]

theorem escapeChar_of_isFileChar {c : Char} (hc : isFileChar c = true) : escapeChar c = [c] := by
  unfold escapeChar
  split
  case h_6 => rfl
  all_goals exact absurd hc (by decide)

/-- A text of these characters is written in a page as it is. -/
theorem escape_of_fileChars {s : String} (hs : ∀ c ∈ s.toList, isFileChar c = true) : escape s = s := by
  have hchars : s.toList.flatMap escapeChar = s.toList := by
    generalize s.toList = cs at hs
    induction cs with
    | nil => rfl
    | cons c rest ih =>
      obtain ⟨hfirst, hrest⟩ := List.forall_mem_cons.mp hs
      rw [List.flatMap_cons, escapeChar_of_isFileChar hfirst, ih hrest]
      rfl
  rw [escape, hchars, String.ofList_toList]

theorem escape_ofList {cs : List Char} (hcs : cs.flatMap escapeChar = cs) :
    escape (String.ofList cs) = String.ofList cs := by
  rw [escape, String.toList_ofList, hcs]

theorem escape_of_idChars {s : String} (hs : ∀ c ∈ s.toList, isIdChar c = true) : escape s = s :=
  escape_of_fileChars fun c hc => isFileChar_of_isIdChar (hs c hc)

/-! ### Labels made of names -/

theorem of_mem_replaceRuns {keep : Char → Bool} {mark c : Char} {inRun : Bool} {cs : List Char}
    (hc : c ∈ replaceRuns keep mark inRun cs) : keep c = true ∨ c = mark := by
  induction cs generalizing inRun with
  | nil => exact absurd hc List.not_mem_nil
  | cons d rest ih =>
    rw [replaceRuns] at hc
    split at hc
    next hkeep =>
      rcases List.mem_cons.mp hc with rfl | hrest
      · exact .inl hkeep
      · exact ih hrest
    next =>
      split at hc
      next => exact ih hc
      next =>
        rcases List.mem_cons.mp hc with rfl | hrest
        · exact .inr rfl
        · exact ih hrest

theorem mem_of_mem_trimBy {drop : Char → Bool} {c : Char} {cs : List Char} (hc : c ∈ trimBy drop cs) :
    c ∈ cs := by
  have hdropped : ∀ {ds : List Char}, c ∈ ds.dropWhile drop → c ∈ ds :=
    fun h => (List.dropWhile_sublist drop).subset h
  have hback := hdropped (List.mem_reverse.mp hc)
  exact hdropped (List.mem_reverse.mp hback)

theorem isIdChar_of_mem_slug {name : String} {c : Char} (hc : c ∈ (slug name).toList) : isIdChar c = true := by
  rw [slug] at hc
  split at hc
  next =>
    have hnameless : namelessLabel.toList.all isIdChar = true := by decide +kernel
    exact List.all_eq_true.mp hnameless c hc
  next =>
    rw [String.toList_ofList] at hc
    rcases of_mem_replaceRuns (mem_of_mem_trimBy hc) with hkeep | rfl
    · exact hkeep
    · rfl

end Text

/-! ### Ids of sheets -/

namespace Workbook

open Text

theorem toList_sheetId (index : Nat) (name : String) :
    (sheetId index name).toList = 'd' :: 's' :: (decimalDigits index ++ '-' :: (slug name).toList) := by
  rw [sheetId, String.toList_append, String.toList_append, String.toList_append, toList_toString]
  simp

theorem isIdChar_of_mem_sheetId {index : Nat} {name : String} {c : Char}
    (hc : c ∈ (sheetId index name).toList) : isIdChar c = true := by
  rw [toList_sheetId] at hc
  simp only [List.mem_cons, List.mem_append] at hc
  rcases hc with rfl | rfl | hdigit | rfl | hlabel
  · decide
  · decide
  · exact isIdChar_of_isAsciiDigit (isAsciiDigit_of_mem_decimalDigits c hdigit)
  · decide
  · exact isIdChar_of_mem_slug hlabel

/-- The position that is read off an id and whatever is put behind it. -/
def positionOf (s : String) : Nat :=
  digitsValue ((s.toList.drop 2).takeWhile isAsciiDigit)

theorem positionOf_sheetId (index : Nat) (name rest : String) :
    positionOf (sheetId index name ++ rest) = index := by
  have hdash : NoDigitAhead ('-' :: ((slug name).toList ++ rest.toList)) := rfl
  have htail : (sheetId index name ++ rest).toList.drop 2 =
      decimalDigits index ++ '-' :: ((slug name).toList ++ rest.toList) := by
    rw [String.toList_append, toList_sheetId]
    simp
  rw [positionOf, htail, takeWhile_digits (isAsciiDigit_of_mem_decimalDigits) hdash,
    digitsValue_decimalDigits]

/-- A name without a slash is one part of a path. -/
theorem child_of_plain (p : Path) {name : String} (hslash : '/' ∉ name.toList) (hempty : name ≠ "")
    (hpoint : name ≠ ".") : p.child name = { p with parts := p.parts ++ [name] } := by
  have hlead : Path.leadOf name.toList = "" := by
    have hnone : name.toList.takeWhile (· == '/') = [] := by
      cases hchars : name.toList with
      | nil => rfl
      | cons c rest =>
        rw [hchars, List.mem_cons, not_or] at hslash
        exact List.takeWhile_cons_of_neg (by simpa using Ne.symm hslash.1)
    rw [Path.leadOf, hnone]
    rfl
  have hpath : Path.ofText name = ⟨"", [name]⟩ := by
    rw [Path.ofText, hlead, splitAt_of_not_mem hslash, List.map_singleton, String.ofList_toList]
    simp [hempty, hpoint]
  rw [Path.child, hpath]
  rfl

/-- An id is one part of a path, and no part that leads elsewhere. -/
theorem child_sheetId (root : Path) (index : Nat) (name : String) :
    root.child (sheetId index name) = { root with parts := root.parts ++ [sheetId index name] } := by
  have hslash : '/' ∉ (sheetId index name).toList := by
    intro hmem
    exact absurd (isIdChar_of_mem_sheetId hmem) (by decide)
  have hplain : sheetId index name ≠ "" ∧ sheetId index name ≠ "." := by
    constructor <;> intro hsame
    all_goals
      have hchars := congrArg String.toList hsame
      rw [toList_sheetId] at hchars
      simp at hchars
  exact child_of_plain root hslash hplain.1 hplain.2

/-- Names that do not repeat, and the ids that positions and names give. -/
structure Numbered (book : Workbook) : Prop where
  names : book.names.Nodup
  ids : book.map (fun (_, sheet) => sheet.id) = book.names.zipIdx.map fun (name, index) => sheetId index name

theorem names_and_ids_of_document {document : Document} {book : Workbook}
    (hbook : ofDocument document = .ok book) :
    book.names = Entries.keys document ∧
      book.map (fun (_, sheet) => sheet.id) =
        (Entries.keys document).zipIdx.map fun (name, index) => sheetId index name := by
  rw [ofDocument, mapM_eq_ok_iff] at hbook
  have hsheets : List.Forall₂ (fun numbered entry =>
      numbered.1.1 = entry.1 ∧ sheetId numbered.2 numbered.1.1 = entry.2.id) document.zipIdx book := by
    apply hbook.imp
    intro numbered entry hentry
    obtain ⟨found, hsheet, hfound⟩ := bind_eq_ok_iff.mp hentry
    obtain ⟨_, _, hresult⟩ := bind_eq_ok_iff.mp hsheet
    cases hfound
    cases hresult
    exact ⟨rfl, rfl⟩
  constructor
  · have hnames : document.zipIdx.map (fun numbered => numbered.1.1) = book.map Prod.fst := by
      rw [← List.forall₂_eq_eq_eq, List.forall₂_map_left_iff, List.forall₂_map_right_iff]
      exact hsheets.imp fun _ _ h => h.1
    rw [names, Entries.keys, Entries.keys, ← hnames]
    conv_rhs => rw [← List.zipIdx_map_fst 0 document, List.map_map]
    rfl
  · have hids : document.zipIdx.map (fun numbered => sheetId numbered.2 numbered.1.1) =
        book.map fun (_, sheet) => sheet.id := by
      rw [← List.forall₂_eq_eq_eq, List.forall₂_map_left_iff, List.forall₂_map_right_iff]
      exact hsheets.imp fun _ _ h => h.2
    rw [← hids, Entries.keys, List.zipIdx_map, List.map_map]
    rfl

theorem Numbered.of_document {document : Document} {book : Workbook}
    (hnames : (Entries.keys document).Nodup) (hbook : ofDocument document = .ok book) : book.Numbered := by
  obtain ⟨hsame, hids⟩ := names_and_ids_of_document hbook
  refine ⟨hsame ▸ hnames, ?_⟩
  rw [hids, hsame]

namespace Numbered

variable {book : Workbook}

theorem exists_sheetId (h : book.Numbered) {entry : String × Sheet} (hentry : entry ∈ book) :
    ∃ index name, entry.2.id = sheetId index name := by
  have hid : entry.2.id ∈ book.map fun (_, sheet) => sheet.id := List.mem_map_of_mem hentry
  rw [h.ids] at hid
  obtain ⟨numbered, _, hsame⟩ := List.mem_map.mp hid
  exact ⟨numbered.2, numbered.1, hsame.symm⟩

theorem isIdChar_of_mem (h : book.Numbered) {entry : String × Sheet} (hentry : entry ∈ book) :
    ∀ c ∈ entry.2.id.toList, isIdChar c = true := by
  obtain ⟨index, name, hid⟩ := h.exists_sheetId hentry
  rw [hid]
  exact fun c hc => isIdChar_of_mem_sheetId hc

/-- Every sheet is found under its name. -/
theorem find_eq (h : book.Numbered) {entry : String × Sheet} (hentry : entry ∈ book) :
    book.find entry.1 = .ok entry.2 := by
  rw [find, Entries.get?_of_mem h.names hentry]

/-- Different sheets have different positions in their ids. -/
theorem pairwise_position (h : book.Numbered) :
    book.Pairwise fun a b => positionOf a.2.id ≠ positionOf b.2.id := by
  have hpositions : book.map (fun entry => positionOf entry.2.id) = List.range book.length := by
    have hmap := congrArg (List.map positionOf) h.ids
    rw [List.map_map, List.map_map] at hmap
    have hindex : (positionOf ∘ fun (name, index) => sheetId index name) = (Prod.snd : String × Nat → Nat) := by
      funext numbered
      have hposition := positionOf_sheetId numbered.2 numbered.1 ""
      rwa [String.append_empty] at hposition
    rw [hindex, List.zipIdx_map_snd] at hmap
    rw [List.range_eq_range', ← show book.names.length = book.length from List.length_map _]
    exact hmap
  have hnodup : (book.map fun entry => positionOf entry.2.id).Nodup := by
    rw [hpositions]
    exact List.nodup_range
  exact List.pairwise_map.mp hnodup

theorem nodup_ids (h : book.Numbered) : (book.map fun (_, sheet) => sheet.id).Nodup := by
  apply List.pairwise_map.mpr
  apply h.pairwise_position.imp
  intro a b hposition hsame
  exact hposition (congrArg positionOf hsame)

end Numbered

end Workbook

end CodecReport
