import CodecReport.Disk.Basic
import CodecReport.Proofs.Outcome

/-!
# What writing leaves behind

Making folders and writing files changes a disk in two ways only: where nothing stood a folder may stand
afterwards, and what the written paths lead to are files with what was written to them last. Folders stay
folders, so a path leads to the same place from the time when it first does.
-/

namespace CodecReport.Disk

variable {disk before middle after : Disk} {p : Path} {loc other : Location} {node : Node}

/-! ### One change -/

theorem lookup_filter_ne {nodes : List (Location × Node)} (hne : other ≠ loc) :
    (nodes.filter (·.1 != loc)).lookup other = nodes.lookup other := by
  induction nodes with
  | nil => rfl
  | cons entry rest ih =>
    obtain ⟨place, found⟩ := entry
    by_cases hplace : place = loc
    · have hother : (other == place) = false := beq_eq_false_iff_ne.mpr (hplace ▸ hne)
      rw [List.filter_cons_of_neg (by simp [hplace]), ih, List.lookup_cons, hother]
    · rw [List.filter_cons_of_pos (by simp [hplace]), List.lookup_cons, List.lookup_cons, ih]

theorem lookup_filter_self (nodes : List (Location × Node)) :
    (nodes.filter (·.1 != loc)).lookup loc = none := by
  rw [List.lookup_eq_none_iff]
  intro entry hentry
  exact bne_comm.trans (List.mem_filter.mp hentry).2

theorem node?_put_of_ne (hne : other ≠ loc) : (disk.put loc node).node? other = disk.node? other := by
  have hother : (other == loc) = false := beq_eq_false_iff_ne.mpr hne
  rw [node?, node?, put, List.lookup_append, lookup_filter_ne hne, List.lookup_cons, hother, List.lookup_nil,
    Option.or_none]

theorem node?_put_self (hfree : disk.node? loc ≠ some .folder) : (disk.put loc node).node? loc = some node := by
  have hhome : ¬ loc.isPrefixOf disk.home = true := by
    intro hprefix
    exact hfree (if_pos hprefix)
  rw [node?, put, if_neg hhome, List.lookup_append, lookup_filter_self, List.lookup_cons, beq_self_eq_true]
  rfl

/-! ### Paths -/

/-- The current folder is the same, and all folders are still there. -/
structure KeepsFolders (before after : Disk) : Prop where
  home : after.home = before.home
  folders : ∀ loc, before.node? loc = some .folder → after.node? loc = some .folder

theorem KeepsFolders.step (h : KeepsFolders before after) {part : String} (hstep : before.step loc part = .ok other) :
    after.step loc part = .ok other := by
  rw [Disk.step] at hstep ⊢
  split at hstep
  next => cases hstep
  next => cases hstep
  next hfolder =>
    rw [h.folders loc hfolder]
    exact hstep

theorem KeepsFolders.steps (h : KeepsFolders before after) {parts : List String}
    (hsteps : parts.foldlM before.step loc = .ok other) : parts.foldlM after.step loc = .ok other := by
  induction parts generalizing loc with
  | nil => exact hsteps
  | cons part rest ih =>
    rw [List.foldlM_cons] at hsteps ⊢
    cases hstep : before.step loc part with
    | error cause =>
      rw [hstep] at hsteps
      cases hsteps
    | ok next =>
      rw [hstep] at hsteps
      rw [h.step hstep]
      exact ih hsteps

/-- A path leads on to where it led. -/
theorem KeepsFolders.locate (h : KeepsFolders before after) (hlocate : before.locate p = .ok loc) :
    after.locate p = .ok loc := by
  rw [Disk.locate, follow] at hlocate ⊢
  split at hlocate
  next => cases hlocate
  next hnull =>
    rw [if_neg hnull]
    split at hlocate
    next => cases hlocate
    next hlong =>
      rw [if_neg hlong, h.home]
      cases hsteps : p.parts.foldlM before.step (if p.isAbsolute then [] else before.home) with
      | error cause =>
        rw [hsteps] at hlocate
        cases hlocate
      | ok found =>
        rw [hsteps] at hlocate
        rw [h.steps hsteps]
        exact hlocate

/-! ### Many changes -/

/-- The files are written, in this order, and all else that is changed are new folders. Where two of the
paths lead to one place, what was written last stands there. -/
structure Wrote (before : Disk) (files : List (Path × String)) (after : Disk) : Prop extends
    KeepsFolders before after where
  damage : after.damage = before.damage
  written : ∀ file ∈ files, ∃ loc, after.locate file.1 = .ok loc ∧
    ∃ same ∈ files, after.locate same.1 = .ok loc ∧ after.node? loc = some (.file same.2.toUTF8)
  others : ∀ loc, (∀ file ∈ files, after.locate file.1 ≠ .ok loc) →
    after.node? loc = before.node? loc ∨ before.node? loc = none ∧ after.node? loc = some .folder

namespace Wrote

variable {files more : List (Path × String)}

theorem refl (disk : Disk) : Wrote disk [] disk where
  home := rfl
  folders _ h := h
  damage := rfl
  written _ hfile := absurd hfile List.not_mem_nil
  others _ _ := .inl rfl

theorem trans (hfirst : Wrote before files middle) (hsecond : Wrote middle more after) :
    Wrote before (files ++ more) after where
  home := hsecond.home.trans hfirst.home
  folders loc hfolder := hsecond.folders loc (hfirst.folders loc hfolder)
  damage := hsecond.damage.trans hfirst.damage
  written file hfile := by
    have hlast : ∀ file ∈ more, ∃ loc, after.locate file.1 = .ok loc ∧
        ∃ same ∈ files ++ more, after.locate same.1 = .ok loc ∧ after.node? loc = some (.file same.2.toUTF8) := by
      intro file hfile
      obtain ⟨loc, hloc, same, hsame, hplace, hnode⟩ := hsecond.written file hfile
      exact ⟨loc, hloc, same, List.mem_append_right _ hsame, hplace, hnode⟩
    rcases List.mem_append.mp hfile with hmem | hmem
    · obtain ⟨loc, hloc, same, hsame, hplace, hnode⟩ := hfirst.written file hmem
      have hfinal := hsecond.locate hloc
      by_cases hagain : ∃ again ∈ more, after.locate again.1 = .ok loc
      · obtain ⟨again, hmore, hsameplace⟩ := hagain
        obtain ⟨found, hfound, hresult⟩ := hlast again hmore
        cases hsameplace.symm.trans hfound
        exact ⟨loc, hfinal, hresult⟩
      · refine ⟨loc, hfinal, same, List.mem_append_left _ hsame, hsecond.locate hplace, ?_⟩
        rcases hsecond.others loc fun again hmore hsameplace => hagain ⟨again, hmore, hsameplace⟩ with hkept | hnew
        · rw [hkept, hnode]
        · rw [hnode] at hnew
          cases hnew.1
    · exact hlast file hmem
  others loc hnone := by
    have hmiddle := hsecond.others loc fun file hfile => hnone file (List.mem_append_right _ hfile)
    have hbefore := hfirst.others loc fun file hfile hplace =>
      hnone file (List.mem_append_left _ hfile) (hsecond.locate hplace)
    rcases hmiddle with hkept | ⟨hfree, hfolder⟩
    · rw [hkept]
      exact hbefore
    · rcases hbefore with hkept | ⟨_, hother⟩
      · exact .inr ⟨hkept ▸ hfree, hfolder⟩
      · rw [hother] at hfree
        cases hfree

/-- A file that was written last stands where its path leads. -/
theorem stands {content : String} (h : Wrote before [(p, content)] after) :
    ∃ loc, after.locate p = .ok loc ∧ after.node? loc = some (.file content.toUTF8) := by
  obtain ⟨loc, hloc, same, hsame, _, hnode⟩ := h.written _ List.mem_cons_self
  obtain rfl := List.mem_singleton.mp hsame
  exact ⟨loc, hloc, hnode⟩

/-- Files stand where they stood before and where a written path leads to, and nowhere else. -/
theorem file_iff (h : Wrote before files after) (loc : Location) :
    (∃ content, after.node? loc = some (.file content)) ↔
      (∃ content, before.node? loc = some (.file content)) ∨ ∃ file ∈ files, after.locate file.1 = .ok loc := by
  by_cases hwritten : ∃ file ∈ files, after.locate file.1 = .ok loc
  · obtain ⟨file, hfile, hplace⟩ := hwritten
    obtain ⟨found, hfound, same, _, _, hnode⟩ := h.written file hfile
    cases hplace.symm.trans hfound
    exact iff_of_true ⟨_, hnode⟩ (.inr ⟨file, hfile, hplace⟩)
  · have hkept := h.others loc fun file hfile hplace => hwritten ⟨file, hfile, hplace⟩
    rw [or_iff_left hwritten]
    rcases hkept with hkept | ⟨hfree, hfolder⟩
    · rw [hkept]
    · rw [hfree, hfolder]
      exact iff_of_false (fun ⟨_, h⟩ => nomatch h) (fun ⟨_, h⟩ => nomatch h)

end Wrote

/-! ### The operations -/

/-- A change at the place that a path leads to, where no folder stands, keeps all folders. -/
theorem keepsFolders_put (hfree : disk.node? loc ≠ some .folder) (node : Node) :
    KeepsFolders disk (disk.put loc node) where
  home := rfl
  folders other hfolder := by
    have hne : other ≠ loc := by
      rintro rfl
      exact hfree hfolder
    rw [node?_put_of_ne hne, hfolder]

theorem makeFolder_wrote {made : Disk} (hmade : disk.makeFolder p = .ok made) : Wrote disk [] made := by
  obtain ⟨loc, _, hmade⟩ := bind_eq_ok_iff.mp hmade
  dsimp only at hmade
  cases hnode : disk.node? loc with
  | some node =>
    rw [hnode] at hmade
    cases hmade
  | none =>
    rw [hnode] at hmade
    cases hmade
    have hfree : disk.node? loc ≠ some .folder := by
      rw [hnode]
      exact Option.some_ne_none _ |>.symm
    refine { keepsFolders_put hfree .folder with
      damage := rfl, written := fun _ hfile => absurd hfile List.not_mem_nil, others := fun other _ => ?_ }
    by_cases hother : other = loc
    · rw [hother, node?_put_self hfree]
      exact .inr ⟨hnode, rfl⟩
    · exact .inl (node?_put_of_ne hother)

/-- Whether or not all folders could be made, those that were made are all that is changed. -/
theorem makeFolders_wrote (disk : Disk) (p : Path) : Wrote disk [] (disk.makeFolders p).2 := by
  induction p using makeFolders.induct disk with
  | case1 p made hmade =>
    rw [makeFolders, hmade]
    exact makeFolder_wrote hmade
  | case2 p path hmade hparts =>
    rw [makeFolders, hmade]
    simp only [hparts, dif_pos]
    exact .refl disk
  | case3 p path hmade hparts fault made hparent ih =>
    rw [hparent] at ih
    rw [makeFolders, hmade]
    simp only [dif_neg hparts, hparent]
    exact ih
  | case4 p path hmade hparts made hparent full hfull ih =>
    rw [hparent] at ih
    rw [makeFolders, hmade]
    simp only [dif_neg hparts, hparent, hfull]
    exact ih.trans (makeFolder_wrote hfull)
  | case5 p path hmade hparts made hparent fault hfault ih =>
    rw [hparent] at ih
    rw [makeFolders, hmade]
    simp only [dif_neg hparts, hparent, hfault]
    exact ih
  | case6 p hmade =>
    rw [makeFolders, hmade]
    exact .refl disk
  | case7 p fault hentry hnull hmade =>
    rw [makeFolders, hmade]
    split
    next hok => cases hok
    next path herror => exact (hentry path (Except.error.inj herror)).elim
    next => exact .refl disk
    next => exact .refl disk

theorem write_wrote {content : String} {made : Disk} (hmade : disk.write p content = .ok made) :
    Wrote disk [(p, content)] made := by
  obtain ⟨loc, hlocate, hmade⟩ := bind_eq_ok_iff.mp hmade
  have hfree : disk.node? loc ≠ some .folder ∧ made = disk.put loc (.file content.toUTF8) := by
    split at hmade
    next => cases hmade
    next hfree => exact ⟨hfree, (Except.ok.inj hmade).symm⟩
  obtain ⟨hfree, rfl⟩ := hfree
  have hkeeps := keepsFolders_put hfree (.file content.toUTF8)
  have hplace := hkeeps.locate hlocate
  refine { hkeeps with damage := rfl, written := fun file hfile => ?_, others := fun other hother => .inl ?_ }
  · obtain rfl := List.mem_singleton.mp hfile
    exact ⟨loc, hplace, (p, content), hfile, hplace, node?_put_self hfree⟩
  · apply node?_put_of_ne
    rintro rfl
    exact hother _ List.mem_cons_self hplace

end CodecReport.Disk
