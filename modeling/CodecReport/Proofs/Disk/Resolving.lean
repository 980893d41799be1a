import CodecReport.Disk.Basic
import CodecReport.Proofs.Outcome
import CodecReport.Proofs.Text.Split

/-!
# Paths and the locations they lead to

A path that was read is got back from its text. Where a path leads to something, its location with the double points
undone by name is the location it leads to: the way there went through folders, so the text of that location leads
to the same place again, unless it is too long a path.
-/

namespace CodecReport

open Text

namespace Path

/-! ### Reading the text of a path -/

/-- A part of a path as reading leaves it. -/
def IsPart (s : String) : Prop :=
  s ≠ "" ∧ s ≠ "." ∧ '/' ∉ s.toList

/-- A path that reading a text can give. -/
structure Written (p : Path) : Prop where
  lead : p.lead = "" ∨ p.lead = "/" ∨ p.lead = "//"
  parts : ∀ part ∈ p.parts, IsPart part

theorem written_ofText (s : String) : (ofText s).Written where
  lead := by
    show leadOf s.toList = "" ∨ leadOf s.toList = "/" ∨ leadOf s.toList = "//"
    rw [leadOf]
    split
    · exact .inl rfl
    · exact .inr (.inr rfl)
    · exact .inr (.inl rfl)
  parts part hpart := by
    obtain ⟨hmem, hkept⟩ := List.mem_filter.mp hpart
    obtain ⟨piece, hpiece, rfl⟩ := List.mem_map.mp hmem
    rw [Bool.and_eq_true, bne_iff_ne, bne_iff_ne] at hkept
    exact ⟨hkept.1, hkept.2, by rw [String.toList_ofList]; exact not_mem_of_mem_splitAt hpiece⟩

theorem toList_text (p : Path) (hsome : ¬(p.lead = "" ∧ p.parts = [])) :
    p.text.toList = p.lead.toList ++ joinWith '/' (p.parts.map String.toList) := by
  rw [text, if_neg hsome, String.toList_append, String.toList_intercalate]
  exact congrArg (p.lead.toList ++ ·) (intercalate_eq_joinWith _)

/-- The parts of a path are the pieces of their text. -/
theorem parts_of_joinWith {parts : List String} (hparts : ∀ part ∈ parts, IsPart part) :
    ((splitAt '/' (joinWith '/' (parts.map String.toList))).map String.ofList).filter
      (fun part => part != "" && part != ".") = parts := by
  by_cases hne : parts.map String.toList = []
  · rw [List.map_eq_nil_iff.mp hne]
    rfl
  · have hpieces : ∀ piece ∈ parts.map String.toList, '/' ∉ piece := by
      intro piece hpiece
      obtain ⟨part, hpart, rfl⟩ := List.mem_map.mp hpiece
      exact (hparts part hpart).2.2
    have hback : (parts.map String.toList).map String.ofList = parts := by
      rw [List.map_map]
      exact (List.map_congr_left fun part _ => String.ofList_toList).trans (List.map_id parts)
    rw [splitAt_joinWith hpieces hne, hback, List.filter_eq_self]
    intro part hpart
    rw [Bool.and_eq_true, bne_iff_ne, bne_iff_ne]
    exact ⟨(hparts part hpart).1, (hparts part hpart).2.1⟩

theorem takeWhile_slash_joinWith {parts : List String} (hparts : ∀ part ∈ parts, IsPart part) :
    (joinWith '/' (parts.map String.toList)).takeWhile (· == '/') = [] := by
  cases parts with
  | nil => rfl
  | cons part more =>
    obtain ⟨hpart, _⟩ := List.forall_mem_cons.mp hparts
    obtain ⟨c, rest, hchars⟩ : ∃ c rest, part.toList = c :: rest :=
      List.exists_cons_of_ne_nil fun hnil => hpart.1 (String.toList_eq_nil_iff.mp hnil)
    have hc : c ≠ '/' := by
      rintro rfl
      exact hpart.2.2 (hchars ▸ List.mem_cons_self)
    have hfirst : (c == '/') = false := by simpa using hc
    cases more with
    | nil => simp [joinWith, hchars, hfirst]
    | cons next later => simp [joinWith, hchars, hfirst]

/-- Slashes in front add empty pieces, which reading drops. -/
theorem pieces_cons_slash (cs : List Char) :
    ((splitAt '/' ('/' :: cs)).map String.ofList).filter (fun part => part != "" && part != ".") =
      ((splitAt '/' cs).map String.ofList).filter (fun part => part != "" && part != ".") := by
  rw [splitAt, if_pos rfl, List.map_cons, List.filter_cons_of_neg (by simp)]

/-- A path is read from its text again. -/
theorem ofText_text {p : Path} (hp : p.Written) : ofText p.text = p := by
  obtain ⟨lead, parts⟩ := p
  obtain ⟨hlead, hparts⟩ := hp
  by_cases hsome : lead = "" ∧ parts = []
  · obtain ⟨rfl, rfl⟩ := hsome
    decide +kernel
  · have hstart := takeWhile_slash_joinWith hparts
    have hpieces := parts_of_joinWith hparts
    rw [ofText, toList_text _ hsome]
    generalize joinWith '/' (parts.map String.toList) = cs at hstart hpieces
    have hslash (more : List Char) : ('/' :: more).takeWhile (· == '/') = '/' :: more.takeWhile (· == '/') :=
      List.takeWhile_cons_of_pos rfl
    rcases hlead with rfl | rfl | rfl
    · rw [show "".toList ++ cs = cs from rfl, leadOf, hstart, hpieces]
      rfl
    · rw [show "/".toList ++ cs = '/' :: cs from rfl, leadOf, hslash, hstart, pieces_cons_slash, hpieces]
      rfl
    · rw [show "//".toList ++ cs = '/' :: '/' :: cs from rfl, leadOf, hslash, hslash, hstart, pieces_cons_slash,
        pieces_cons_slash, hpieces]
      rfl

/-- The parts of a path stand in its text. -/
theorem mem_toList_text {p : Path} {part : String} (hpart : part ∈ p.parts) {c : Char} (hc : c ∈ part.toList) :
    c ∈ p.text.toList := by
  rw [toList_text p fun h => absurd hpart (h.2 ▸ List.not_mem_nil), List.mem_append]
  exact .inr (mem_joinWith_of_mem (List.mem_map_of_mem hpart) hc)

end Path

namespace Disk

variable {disk : Disk} {loc next : Location} {p : Path}

/-! ### Following a path -/

/-- A name that a file or a folder can have. -/
structure IsName (s : String) : Prop where
  part : Path.IsPart s
  ne_parent : s ≠ ".."
  short : s.utf8ByteSize ≤ nameLimit
  no_null : '\x00' ∉ s.toList

/-- A location that a path leads to: of names, and around it are folders only. -/
structure Reached (disk : Disk) (loc : Location) : Prop where
  names : ∀ name ∈ loc, IsName name
  folders : ∀ around, around <+: loc → around ≠ loc → disk.node? around = some .folder

theorem reached_nil (disk : Disk) : Reached disk [] where
  names := by simp
  folders around hwithin hne := absurd (List.prefix_nil.mp hwithin) hne

theorem reached_home (hhome : ∀ name ∈ disk.home, IsName name) : Reached disk disk.home where
  names := hhome
  folders around hwithin _ := by rw [node?, if_pos (List.isPrefixOf_iff_prefix.mpr hwithin)]

theorem Reached.dropLast (h : Reached disk loc) : Reached disk loc.dropLast where
  names name hname := h.names name ((List.dropLast_sublist loc).subset hname)
  folders around hwithin hne := by
    refine h.folders around (hwithin.trans (List.dropLast_prefix loc)) ?_
    rintro rfl
    exact hne (hwithin.eq_of_length_le (List.dropLast_prefix around).length_le)

theorem Reached.concat (h : Reached disk loc) (hfolder : disk.node? loc = some .folder) {name : String}
    (hname : IsName name) : Reached disk (loc ++ [name]) where
  names other hother := (List.mem_append.mp hother).elim (h.names other)
    fun heq => List.mem_singleton.mp heq ▸ hname
  folders around hwithin hne := by
    rcases List.prefix_concat_iff.mp hwithin with heq | hwithin
    · exact absurd heq hne
    · by_cases heq : around = loc
      · rwa [heq]
      · exact h.folders around hwithin heq

/-- A step leads from one location to another as its name says. -/
theorem Reached.step (h : Reached disk loc) {part : String} (hpart : Path.IsPart part)
    (hnull : '\x00' ∉ part.toList) (hstep : disk.step loc part = .ok next) :
    Reached disk next ∧ next = if part = ".." then loc.dropLast else loc ++ [part] := by
  rw [Disk.step] at hstep
  split at hstep
  next => cases hstep
  next => cases hstep
  next hfolder =>
    split at hstep
    next hparent =>
      cases hstep
      exact ⟨h.dropLast, (if_pos hparent).symm⟩
    next hname =>
      split at hstep
      next => cases hstep
      next hshort =>
        cases hstep
        exact ⟨h.concat hfolder ⟨hpart, hname, Nat.not_lt.mp hshort, hnull⟩, (if_neg hname).symm⟩

theorem Reached.steps (h : Reached disk loc) {parts : List String}
    (hparts : ∀ part ∈ parts, Path.IsPart part ∧ '\x00' ∉ part.toList)
    (hsteps : parts.foldlM disk.step loc = .ok next) :
    Reached disk next ∧
      next = parts.foldl (fun loc part => if part = ".." then loc.dropLast else loc ++ [part]) loc := by
  induction parts generalizing loc with
  | nil =>
    cases hsteps
    exact ⟨h, rfl⟩
  | cons part more ih =>
    obtain ⟨hpart, hmore⟩ := List.forall_mem_cons.mp hparts
    rw [List.foldlM_cons] at hsteps
    obtain ⟨middle, hfirst, hrest⟩ := bind_eq_ok_iff.mp hsteps
    obtain ⟨hmiddle, heq⟩ := h.step hpart.1 hpart.2 hfirst
    rw [List.foldl_cons, ← heq]
    exact ih hmiddle hmore hrest

/-- Where a path leads, undoing its double points by name leads. -/
theorem locate_reached (hhome : ∀ name ∈ disk.home, IsName name) (hp : p.Written)
    (hlocate : disk.locate p = .ok loc) : Reached disk loc ∧ disk.resolve p = ⟨"/", loc⟩ := by
  rw [locate] at hlocate
  split at hlocate
  next => cases hlocate
  next hnull =>
    have hparts : ∀ part ∈ p.parts, Path.IsPart part ∧ '\x00' ∉ part.toList := fun part hpart =>
      ⟨hp.parts part hpart, fun hmem => hnull (List.contains_iff_mem.mpr (Path.mem_toList_text hpart hmem))⟩
    have hfollow : disk.follow p = .ok loc := mapError_eq_ok_iff.mp hlocate
    rw [follow] at hfollow
    split at hfollow
    next => cases hfollow
    next =>
      have hstart : Reached disk (if p.isAbsolute then [] else disk.home) := by
        split
        · exact reached_nil disk
        · exact reached_home hhome
      obtain ⟨hreached, heq⟩ := hstart.steps hparts hfollow
      exact ⟨hreached, by rw [resolve, ← heq]⟩

/-! ### Following a location -/

theorem Reached.foldlM_step {after : Location} (h : Reached disk (loc ++ after)) :
    after.foldlM disk.step loc = .ok (loc ++ after) := by
  induction after generalizing loc with
  | nil => rw [List.append_nil]; rfl
  | cons name more ih =>
    have hname : IsName name := h.names name (List.mem_append_right _ List.mem_cons_self)
    have hfolder : disk.node? loc = some .folder :=
      h.folders loc (List.prefix_append _ _) fun heq => by simp at heq
    have hstep : disk.step loc name = .ok (loc ++ [name]) := by
      rw [Disk.step, hfolder]
      simp only [if_neg hname.ne_parent, if_neg (Nat.not_lt.mpr hname.short)]
    rw [List.foldlM_cons, hstep]
    have hlonger : Reached disk ((loc ++ [name]) ++ more) := by rwa [List.append_assoc]
    have hrest := ih hlonger
    rwa [List.append_assoc] at hrest

theorem Reached.written (h : Reached disk loc) : (⟨"/", loc⟩ : Path).Written where
  lead := .inr (.inl rfl)
  parts part hpart := (h.names part hpart).part

theorem Reached.hasNull (h : Reached disk loc) : (⟨"/", loc⟩ : Path).hasNull = false := by
  have htext : (⟨"/", loc⟩ : Path).text.toList = '/' :: joinWith '/' (loc.map String.toList) := by
    have hlead : "/".toList = ['/'] := rfl
    rw [Path.toList_text _ (by simp), hlead]
    rfl
  rw [Path.hasNull, htext, ← Bool.not_eq_true, List.contains_iff_mem, List.mem_cons, not_or]
  refine ⟨by decide, not_mem_joinWith (by decide) fun piece hpiece => ?_⟩
  obtain ⟨name, hname, rfl⟩ := List.mem_map.mp hpiece
  exact (h.names name hname).no_null

/-- The text of a location leads there, unless it is too long. -/
theorem Reached.probe (h : Reached disk loc) :
    disk.probe ⟨"/", loc⟩ =
      if pathLimit ≤ (⟨"/", loc⟩ : Path).text.utf8ByteSize then
        .error (.refused .nameTooLong (⟨"/", loc⟩ : Path).text)
      else .ok (disk.node? loc) := by
  have hsteps : loc.foldlM disk.step [] = .ok loc := h.foldlM_step
  rw [Disk.probe, locate, h.hasNull, follow]
  by_cases hlong : pathLimit ≤ (⟨"/", loc⟩ : Path).text.utf8ByteSize
  · rw [if_pos hlong, if_pos hlong]
    rfl
  · rw [if_neg hlong, if_neg hlong]
    simp only [show (⟨"/", loc⟩ : Path).isAbsolute = true from rfl, if_true, hsteps]
    rfl

/-- What stands where a path leads stands where its location leads, unless the text of the location is too long. -/
theorem probe_resolve (hhome : ∀ name ∈ disk.home, IsName name) (hp : p.Written) {node : Node}
    (hnode : disk.probe p = .ok (some node)) :
    (disk.resolve p).Written ∧ (disk.resolve p).lead = "/" ∧
      disk.probe (disk.resolve p) =
        if pathLimit ≤ (disk.resolve p).text.utf8ByteSize then
          .error (.refused .nameTooLong (disk.resolve p).text)
        else .ok (some node) := by
  rw [Disk.probe] at hnode
  split at hnode
  next loc hlocate =>
    obtain ⟨hreached, hresolve⟩ := locate_reached hhome hp hlocate
    rw [hresolve]
    refine ⟨hreached.written, rfl, ?_⟩
    rw [hreached.probe, Except.ok.inj hnode]
  next => cases hnode
  next => cases hnode

end Disk

end CodecReport
