import CodecReport.Proofs.Disk.Writing
import CodecReport.Proofs.Output.Sparing
import CodecReport.Steps

/-!
# What steps leave behind

Steps change the disk, and hand matrix files and pictures to the libraries that write them. What a run leaves
behind in this way is what its steps leave behind, one after the other, as long as none of them fails; steps
that only read, print or log leave nothing behind, whether or not they fail.
-/

namespace CodecReport

/-- What steps leave behind: the files that they write, in this order, the matrix files, and the names of the
pictures that they keep. -/
structure Products where
  files : List (Path × String) := []
  matrices : List MatrixFile := []
  pictures : List String := []

namespace Products

instance : Append Products where
  append a b := ⟨a.files ++ b.files, a.matrices ++ b.matrices, a.pictures ++ b.pictures⟩

theorem append_def (a b : Products) :
    a ++ b = ⟨a.files ++ b.files, a.matrices ++ b.matrices, a.pictures ++ b.pictures⟩ := rfl

@[simp] theorem append_empty (a : Products) : a ++ ({} : Products) = a := by
  simp [append_def]

/-- What is left behind for each item of a list. -/
def ofEach {α : Type} (items : List α) (f : α → Products) : Products :=
  ⟨items.flatMap fun item => (f item).files, items.flatMap fun item => (f item).matrices,
    items.flatMap fun item => (f item).pictures⟩

@[simp] theorem ofEach_cons {α : Type} (item : α) (rest : List α) (f : α → Products) :
    ofEach (item :: rest) f = f item ++ ofEach rest f := rfl

theorem ofEach_empty {α : Type} (items : List α) : ofEach items (fun _ => {}) = {} := by
  induction items with
  | nil => rfl
  | cons item rest ih =>
    rw [ofEach_cons, ih]
    rfl

end Products

/-- The name under which a stroke keeps its picture, if that is what it does. -/
def Stroke.keptAs? (stroke : Stroke) : Option String :=
  match stroke.args with
  | [.text name] => if stroke.name = "savefig" then some name else none
  | _ => none

namespace Session

/-- The names under which pictures were kept, in this order. -/
def keptPictures (s : Session) : List String :=
  s.pictures.flatten.filterMap Stroke.keptAs?

/-- What was written from one session to another. -/
structure Leaves (before : Session) (out : Products) (after : Session) : Prop where
  disk : Disk.Wrote before.disk out.files after.disk
  matrices : after.matrices = before.matrices ++ out.matrices
  pictures : after.keptPictures = before.keptPictures ++ out.pictures

/-- Nothing was written from one session to another. -/
structure SameProducts (before after : Session) : Prop where
  disk : after.disk = before.disk
  matrices : after.matrices = before.matrices
  pictures : after.pictures = before.pictures

variable {before middle after : Session} {out more : Products}

theorem SameProducts.refl (s : Session) : SameProducts s s := ⟨rfl, rfl, rfl⟩

theorem SameProducts.trans (hfirst : SameProducts before middle) (hsecond : SameProducts middle after) :
    SameProducts before after :=
  ⟨hsecond.disk.trans hfirst.disk, hsecond.matrices.trans hfirst.matrices,
    hsecond.pictures.trans hfirst.pictures⟩

theorem SameProducts.leaves (h : SameProducts before after) : before.Leaves {} after where
  disk := h.disk ▸ .refl before.disk
  matrices := by rw [h.matrices, List.append_nil]
  pictures := by rw [keptPictures, h.pictures, List.append_nil]; rfl

theorem SameProducts.leaves_trans (hfirst : SameProducts before middle) (hsecond : middle.Leaves out after) :
    before.Leaves out after where
  disk := hfirst.disk ▸ hsecond.disk
  matrices := hfirst.matrices ▸ hsecond.matrices
  pictures := by
    have hkept : middle.keptPictures = before.keptPictures := by
      rw [keptPictures, hfirst.pictures]
      rfl
    rw [hsecond.pictures, hkept]

theorem Leaves.trans (hfirst : before.Leaves out middle) (hsecond : middle.Leaves more after) :
    before.Leaves (out ++ more) after where
  disk := hfirst.disk.trans hsecond.disk
  matrices := by rw [hsecond.matrices, hfirst.matrices, List.append_assoc]; rfl
  pictures := by rw [hsecond.pictures, hfirst.pictures, List.append_assoc]; rfl

/-- Files stand where they stood before and where a path leads to that was written, and nowhere else. -/
theorem Leaves.file_iff (h : before.Leaves out after) (loc : Location) :
    (∃ content, after.disk.node? loc = some (.file content)) ↔
      (∃ content, before.disk.node? loc = some (.file content)) ∨
        ∃ file ∈ out.files, after.disk.locate file.1 = .ok loc :=
  h.disk.file_iff loc

end Session

namespace Act

variable {α β : Type}

/-- A result that steps can have. -/
def Gives (steps : Act α) (a : α) : Prop :=
  ∃ session later, runOn session steps = (.ok a, later)

namespace Gives

theorem of_pure {a b : α} (h : Gives (pure a) b) : b = a := by
  obtain ⟨session, later, hrun⟩ := h
  exact (Except.ok.inj (congrArg Prod.fst hrun)).symm

theorem of_ofResult {result : Except Fault α} {a : α} (h : Gives (ofResult result) a) : result = .ok a := by
  obtain ⟨session, later, hrun⟩ := h
  exact congrArg Prod.fst hrun

theorem of_bind {steps : Act α} {next : α → Act β} {b : β} (h : Gives (steps >>= next) b) :
    ∃ a, Gives steps a ∧ Gives (next a) b := by
  obtain ⟨session, later, hrun⟩ := h
  obtain ⟨a, middle, hfirst, hsecond⟩ | ⟨_, _, _, hresult⟩ := Steps.runOn_bind_cases hrun
  · exact ⟨a, ⟨session, middle, hfirst⟩, middle, later, hsecond⟩
  · cases hresult

/-- What steps over a list give, fallible steps give that give what each of them can. -/
theorem of_mapM {ι : Type} {step : ι → Act β} {result : ι → Except Fault β}
    (hstep : ∀ item b, Gives (step item) b → result item = .ok b) {items : List ι} {bs : List β}
    (h : Gives (items.mapM step) bs) : items.mapM result = .ok bs := by
  induction items generalizing bs with
  | nil =>
    obtain rfl := of_pure h
    rfl
  | cons item rest ih =>
    rw [List.mapM_cons] at h ⊢
    obtain ⟨b, hfirst, h⟩ := of_bind h
    obtain ⟨more, hrest, h⟩ := of_bind h
    obtain rfl := of_pure h
    rw [hstep item b hfirst, ih hrest]
    rfl

end Gives

theorem runOn_attempt (session : Session) (steps : Act α) :
    runOn session (attempt steps) = (.ok (runOn session steps).1, (runOn session steps).2) := rfl

/-! ### Steps that leave nothing behind -/

/-- Steps that write nothing, whether or not they fail. -/
def Quiet (steps : Act α) : Prop :=
  ∀ session, Session.SameProducts session (runOn session steps).2

namespace Quiet

variable {steps : Act α} {next : α → Act β}

theorem of_eq (h : Quiet steps) {session later : Session} {outcome : Except Fault α}
    (hrun : runOn session steps = (outcome, later)) : Session.SameProducts session later := by
  have hsame := h session
  rw [hrun] at hsame
  exact hsame

theorem pure (a : α) : Quiet (pure a : Act α) := fun session => .refl session

theorem throw (fault : Fault) : Quiet (throw fault : Act α) := fun session => .refl session

theorem ofResult (result : Except Fault α) : Quiet (ofResult result) := fun session => .refl session

theorem get : Quiet (get : Act Session) := fun session => .refl session

theorem bind (h : Quiet steps) (hnext : ∀ a, Quiet (next a)) : Quiet (steps >>= next) := by
  intro session
  obtain ⟨a, middle, hfirst, hsecond⟩ | ⟨fault, later, hfirst, hresult⟩ :=
    Steps.runOn_bind_cases (rfl : runOn session (steps >>= next) = _)
  · exact (h.of_eq hfirst).trans ((hnext a).of_eq hsecond)
  · rw [hresult]
    exact h.of_eq hfirst

theorem attempt (h : Quiet steps) : Quiet (attempt steps) := by
  intro session
  rw [runOn_attempt]
  exact h session

theorem print (line : String) : Quiet (print line) := fun _ => ⟨rfl, rfl, rfl⟩

theorem log (severity : Severity) (source message : String) : Quiet (log severity source message) :=
  fun _ => ⟨rfl, rfl, rfl⟩

theorem showFrom (threshold : Nat) : Quiet (showFrom threshold) := fun _ => ⟨rfl, rfl, rfl⟩

theorem request (location : String) (timeout : Double) : Quiet (request location timeout) :=
  fun _ => ⟨rfl, rfl, rfl⟩

theorem mapM {ι : Type} {step : ι → Act β} (h : ∀ item, Quiet (step item)) (items : List ι) :
    Quiet (items.mapM step) := by
  induction items with
  | nil => exact .pure []
  | cons item rest ih =>
    rw [List.mapM_cons]
    exact (h item).bind fun _ => ih.bind fun _ => .pure _

theorem forIn {ι : Type} {step : ι → Act PUnit} (h : ∀ item, Quiet (step item)) (items : List ι) :
    Quiet (forIn items PUnit.unit fun item _ => do
      step item
      Pure.pure (ForInStep.yield PUnit.unit) : Act PUnit) := by
  induction items with
  | nil => exact .pure _
  | cons item rest ih =>
    rw [List.forIn_cons, bind_assoc]
    exact (h item).bind fun _ => ih

end Quiet

/-! ### Steps that leave something behind -/

/-- Steps that leave something behind unless they fail, and which faults they may fail with. -/
structure Writes (faults : Fault → Prop) (steps : Act α) (out : Products) : Prop where
  leaves : ∀ {session a later}, runOn session steps = (.ok a, later) → session.Leaves out later
  fails : ∀ session, FailsWithin faults (runOn session steps).1

namespace Writes

variable {faults : Fault → Prop} {steps : Act α} {next : α → Act β} {out more : Products}

theorem of_quiet (h : Quiet steps) (hfails : ∀ session, FailsWithin faults (runOn session steps).1) :
    Writes faults steps {} where
  leaves hrun := (h.of_eq hrun).leaves
  fails := hfails

/-- Steps of which every run is known. -/
theorem of_runs (h : ∀ session, ∃ outcome later, runOn session steps = (outcome, later) ∧
    Session.SameProducts session later ∧ FailsWithin faults outcome) : Writes faults steps {} := by
  refine of_quiet (fun session => ?_) fun session => ?_
  all_goals
    obtain ⟨outcome, later, hrun, hsame, hfails⟩ := h session
    rw [hrun]
  · exact hsame
  · exact hfails

theorem pure (a : α) : Writes faults (pure a) {} :=
  of_quiet (.pure a) fun _ => .ok a

theorem ofResult {result : Except Fault α} (h : FailsWithin faults result) :
    Writes faults (ofResult result) {} :=
  of_quiet (.ofResult result) fun _ => h

/-- Steps that are stopped at once leave nothing behind that could be anything else. -/
theorem throw {fault : Fault} (h : faults fault) (out : Products) : Writes faults (throw fault : Act α) out where
  leaves := nofun
  fails _ := .error h

theorem bind (h : Writes faults steps out) (hnext : ∀ a, Gives steps a → Writes faults (next a) more) :
    Writes faults (steps >>= next) (out ++ more) where
  leaves := by
    intro session b later hrun
    obtain ⟨a, middle, hfirst, hsecond⟩ | ⟨_, _, _, hresult⟩ := Steps.runOn_bind_cases hrun
    · exact (h.leaves hfirst).trans ((hnext a ⟨_, _, hfirst⟩).leaves hsecond)
    · cases hresult
  fails := by
    intro session fault hfault
    obtain ⟨a, middle, hfirst, hsecond⟩ | ⟨found, later, hfirst, hresult⟩ :=
      Steps.runOn_bind_cases (rfl : runOn session (steps >>= next) = _)
    · exact (hnext a ⟨_, _, hfirst⟩).fails middle fault ((congrArg Prod.fst hsecond).trans hfault)
    · have hsame : Except.error found = (.error fault : Except Fault β) :=
        (congrArg Prod.fst hresult).symm.trans hfault
      obtain rfl := Except.error.inj hsame
      exact h.fails session found (congrArg Prod.fst hfirst)

/-- Steps that go on from steps which leave nothing behind. -/
theorem andThen (h : Writes faults steps {}) (hnext : ∀ a, Gives steps a → Writes faults (next a) out) :
    Writes faults (steps >>= next) out :=
  h.bind hnext

/-- Steps behind which nothing more is left behind. -/
theorem followed (h : Writes faults steps out) (hnext : ∀ a, Writes faults (next a) {}) :
    Writes faults (steps >>= next) out := by
  have hboth := h.bind fun a _ => hnext a
  rw [Products.append_empty] at hboth
  exact hboth

/-- Steps that go on from a result. -/
theorem ofResult_bind {result : Except Fault α} (h : FailsWithin faults result)
    (hnext : ∀ a, result = .ok a → Writes faults (next a) out) :
    Writes faults (Act.ofResult result >>= next) out := by
  refine (ofResult h).andThen fun a ⟨session, later, hrun⟩ => hnext a ?_
  exact congrArg Prod.fst hrun

theorem forM {ι : Type} {items : List ι} {step : ι → Act PUnit} {out : ι → Products}
    (h : ∀ item ∈ items, Writes faults (step item) (out item)) :
    Writes faults (items.forM step) (.ofEach items out) := by
  induction items with
  | nil => exact .pure _
  | cons item rest ih =>
    obtain ⟨hfirst, hrest⟩ := List.forall_mem_cons.mp h
    exact hfirst.bind fun _ _ => ih hrest

theorem forM_empty {ι : Type} {items : List ι} {step : ι → Act PUnit}
    (h : ∀ item ∈ items, Writes faults (step item) {}) : Writes faults (items.forM step) {} := by
  have hall := forM h
  rw [Products.ofEach_empty] at hall
  exact hall

theorem print (line : String) : Writes faults (print line) {} :=
  of_quiet (.print line) fun _ => .ok _

/-- Folders are made as far as they are missing; files are not touched. -/
theorem makeFolders (hdisk : ∀ f, faults (.disk f)) (p : Path) : Writes faults (makeFolders p) {} where
  leaves := by
    intro session _ later hrun
    obtain rfl : { session with disk := (session.disk.makeFolders p).2 } = later := congrArg Prod.snd hrun
    exact ⟨Disk.makeFolders_wrote session.disk p, (List.append_nil _).symm, (List.append_nil _).symm⟩
  fails _ := FailsWithin.mapError hdisk _

theorem runOn_writeFile (p : Path) (content : String) (session : Session) :
    runOn session (Act.writeFile p content) =
      match session.disk.write p content with
      | .ok disk => (.ok (), { session with disk })
      | .error fault => (.error (.disk fault), session) := by
  rw [Act.writeFile, Steps.runOn_bind_ok (Steps.runOn_get session)]
  cases session.disk.write p content <;> rfl

theorem writeFile (hdisk : ∀ f, faults (.disk f)) (p : Path) (content : String) :
    Writes faults (writeFile p content) { files := [(p, content)] } := by
  refine ⟨fun {session a later} hlater => ?_, fun session => ?_⟩
  · rw [runOn_writeFile] at hlater
    cases hwrite : session.disk.write p content with
    | error fault =>
      rw [hwrite] at hlater
      cases hlater
    | ok made =>
      rw [hwrite] at hlater
      cases hlater
      exact ⟨Disk.write_wrote hwrite, (List.append_nil _).symm, (List.append_nil _).symm⟩
  · rw [runOn_writeFile]
    cases session.disk.write p content with
    | ok made => exact .ok _
    | error fault => exact .error (hdisk fault)

theorem writeMatrix (file : MatrixFile) : Writes faults (writeMatrix file) { matrices := [file] } where
  leaves := by
    intro session _ later hrun
    obtain rfl := congrArg Prod.snd hrun
    exact ⟨.refl _, rfl, (List.append_nil _).symm⟩
  fails _ := .ok _

theorem flatten_addStroke (stroke : Stroke) (pictures : List Picture) :
    (addStroke stroke pictures).flatten = pictures.flatten ++ [stroke] := by
  rw [addStroke]
  cases hlast : pictures.getLast? with
  | none =>
    obtain rfl := List.getLast?_eq_none_iff.mp hlast
    rfl
  | some last =>
    obtain ⟨before, rfl⟩ := List.getLast?_eq_some_iff.mp hlast
    simp

theorem stroke (stroke : Stroke) : Writes faults (Act.stroke stroke) { pictures := stroke.keptAs?.toList } where
  leaves := by
    intro session _ later hrun
    obtain rfl := congrArg Prod.snd hrun
    refine ⟨.refl _, (List.append_nil _).symm, ?_⟩
    show (addStroke stroke session.pictures).flatten.filterMap Stroke.keptAs? = _
    rw [flatten_addStroke, List.filterMap_append]
    cases hkept : stroke.keptAs? <;> simp [hkept, Session.keptPictures]
  fails _ := .ok _

theorem startPicture {stroke : Stroke} (hnone : stroke.keptAs? = none) : Writes faults (startPicture stroke) {} where
  leaves := by
    intro session _ later hrun
    obtain rfl := congrArg Prod.snd hrun
    refine ⟨.refl _, (List.append_nil _).symm, ?_⟩
    show (session.pictures ++ [[stroke]]).flatten.filterMap Stroke.keptAs? = _
    rw [List.flatten_append, List.filterMap_append]
    simp [hnone, Session.keptPictures]
  fails _ := .ok _

end Writes

/-! ### How steps end -/

/-- Steps end with this, or are stopped like that. -/
def Ends (session : Session) (steps : Act α) (good : α → Session → Prop) (stopped : Fault → Session → Prop) : Prop :=
  match runOn session steps with
  | (.ok a, later) => good a later
  | (.error fault, later) => stopped fault later

variable {session : Session} {steps : Act α} {good : α → Session → Prop} {stopped : Fault → Session → Prop}

theorem Ends.bind {next : α → Act β} {good : β → Session → Prop}
    (h : Ends session steps (fun a later => Ends later (next a) good stopped) stopped) :
    Ends session (steps >>= next) good stopped := by
  rcases hrun : Steps.runOn session (steps >>= next) with ⟨outcome, later⟩
  obtain ⟨a, middle, hfirst, hsecond⟩ | ⟨fault, middle, hfirst, hresult⟩ := Steps.runOn_bind_cases hrun
  · have hnext : Ends middle (next a) good stopped := by
      unfold Ends at h
      rw [show runOn session steps = (.ok a, middle) from hfirst] at h
      exact h
    unfold Ends at hnext ⊢
    rw [show runOn middle (next a) = (outcome, later) from hsecond] at hnext
    rw [show runOn session (steps >>= next) = (outcome, later) from hrun]
    exact hnext
  · unfold Ends at h ⊢
    rw [show runOn session steps = (.error fault, middle) from hfirst] at h
    rw [show runOn session (steps >>= next) = _ from hrun, hresult]
    exact h

theorem Ends.imp {good' : α → Session → Prop} (h : Ends session steps good stopped)
    (hgood : ∀ a later, good a later → good' a later) : Ends session steps good' stopped := by
  unfold Ends at h ⊢
  split
  next a later hrun =>
    rw [hrun] at h
    exact hgood a later h
  next fault later hrun =>
    rw [hrun] at h
    exact h

theorem Ends.map {good : β → Session → Prop} (f : α → β)
    (h : Ends session steps (fun a later => good (f a) later) stopped) :
    Ends session (f <$> steps) good stopped := by
  rw [map_eq_pure_bind]
  exact h.bind

theorem Ends.ite {c : Prop} [Decidable c] {other : Act α} (h : Ends session steps good stopped)
    (hother : Ends session other good stopped) : Ends session (if c then steps else other) good stopped := by
  split
  · exact h
  · exact hother

theorem Ends.ofResult_bind {result : Except Fault α} {next : α → Act β} {good : β → Session → Prop}
    (hnext : ∀ a, result = .ok a → Ends session (next a) good stopped)
    (hstopped : ∀ fault, result = .error fault → stopped fault session) :
    Ends session (ofResult result >>= next) good stopped := by
  cases result with
  | ok a => exact hnext a rfl
  | error fault => exact hstopped fault rfl

/-- Steps behind steps that write nothing. -/
theorem Quiet.ends_bind (h : Quiet steps) {next : α → Act β} {good : β → Session → Prop}
    (hnext : ∀ a later, runOn session steps = (.ok a, later) → session.SameProducts later →
      Ends later (next a) good stopped)
    (hstopped : ∀ fault later, session.SameProducts later → stopped fault later) :
    Ends session (steps >>= next) good stopped := by
  apply Ends.bind
  unfold Ends
  split
  next a later hrun => exact hnext a later hrun (h.of_eq hrun)
  next fault later hrun => exact hstopped fault later (h.of_eq hrun)

theorem Writes.ends {faults : Fault → Prop} {out : Products} (h : Writes faults steps out)
    (hgood : ∀ a later, runOn session steps = (.ok a, later) → session.Leaves out later → good a later)
    (hstopped : ∀ fault later, faults fault → stopped fault later) : Ends session steps good stopped := by
  unfold Ends
  split
  next a later hrun => exact hgood a later hrun (h.leaves hrun)
  next fault later hrun => exact hstopped fault later (h.fails session fault (congrArg Prod.fst hrun))

end Act

end CodecReport
