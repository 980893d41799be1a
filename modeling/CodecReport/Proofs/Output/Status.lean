import CodecReport.Proofs.Output.Pages
import CodecReport.Proofs.Page.Wording
import CodecReport.Proofs.Source.Loading
import CodecReport.Run

/-!
# What the status of a run tells

A run reads its configuration and the document, computes the tables and checks what the configuration says about
the output before it writes anything, and from the first folder on it does not blame the configuration any more.
So the status tells what is on the disk: zero, the page and the files of every dataset; one, a page that says why
there is no document, and nothing else; two, nothing.
-/

namespace CodecReport

open Act

/-! ### Reading -/

namespace Source

theorem quiet_load (exchange : Exchange) (config : Value) (text : String) : Quiet (load exchange config text) := by
  have hfetch : Quiet (fetch exchange config text) := by
    refine Quiet.get.bind fun session => (Quiet.ofResult _).bind fun source => ?_
    split
    · exact (Quiet.ofResult _).bind fun seconds => (Quiet.request _ _).bind fun _ => .ofResult _
    · exact Quiet.get.bind fun later => .ofResult _
    · exact .throw _
  exact hfetch.bind fun bytes => (Quiet.ofResult _).bind fun document => (Quiet.log _ _ _).bind fun _ => .pure _

end Source

namespace Run

theorem quiet_begin (inv : Invocation) : Quiet (begin inv) := by
  refine Quiet.get.bind fun session => (Quiet.ofResult _).bind fun config => ?_
  refine (Quiet.ofResult _).bind fun logging => (Quiet.ofResult _).bind fun threshold => ?_
  refine (Quiet.showFrom _).bind fun _ => (Quiet.ofResult _).bind fun verbose => ?_
  refine (Quiet.ofResult _).bind fun input => (Quiet.ofResult _).bind fun source => ?_
  exact (Quiet.ofResult _).bind fun output => (Quiet.ofResult _).bind fun root => .pure _

theorem quiet_workbook (document : Document) : Quiet (workbook document) := by
  refine Quiet.mapM (fun ((name, dataset), index) => ?_) _
  exact (Quiet.ofResult _).bind fun sheet => (Quiet.forIn (fun _ => .log _ _ _) _).bind fun _ => .pure _

theorem ofDocument_of_workbook {document : Document} {book : Workbook} (hbook : Gives (workbook document) book) :
    Workbook.ofDocument document = .ok book := by
  refine Gives.of_mapM (fun ((name, dataset), index) entry hentry => ?_) hbook
  obtain ⟨sheet, hsheet, hentry⟩ := Gives.of_bind hentry
  obtain ⟨_, _, hentry⟩ := Gives.of_bind hentry
  obtain rfl := Gives.of_pure hentry
  show Workbook.sheet index name dataset >>= _ = _
  rw [Gives.of_ofResult hsheet]
  rfl

/-! ### What is written -/

/-- What was written is exactly this: the files on the disk are those of before and those that were written. -/
structure WritesExactly (before : Session) (out : Products) (later : Session) : Prop where
  leaves : before.Leaves out later
  files : ∀ loc, (∃ content, later.disk.node? loc = some (.file content)) ↔
    (∃ content, before.disk.node? loc = some (.file content)) ∨
      ∃ file ∈ out.files, later.disk.locate file.1 = .ok loc

/-- The page of the document that was read, and the files of each of its datasets in a folder of its own, are what
was written. -/
def WritesReport (exchange : Exchange) (inv : Invocation) (before later : Session) : Prop :=
  ∃ plan verbose document book output name html,
    ((runOn before (begin inv)).1 = .ok (plan, verbose) ∧
      (runOn before (Source.load exchange plan.config plan.source)).1 = .ok document ∧
      Workbook.ofDocument document = .ok book ∧
      OutputPlan.ofConfig plan.config = .ok output ∧
      OutputPlan.pageName output.output = .ok name) ∧
    (∃ setup, Page.SetBy book plan.config setup ∧ html = Markup.html (setup.pieces book)) ∧
    (∃ loc, later.disk.locate (plan.root.child name) = .ok loc ∧ later.disk.node? loc = some (.file html.toUTF8)) ∧
    (book.names = Entries.keys document ∧ (book.map fun (_, sheet) => sheet.id).Nodup ∧
      ∀ entry ∈ book, ((Page.drawnViews book plan.config entry.2).map View.id).Nodup) ∧
    WritesExactly before (.ofEach book (fun entry =>
        sheetProducts output plan.root (Page.drawnViews book plan.config entry.2) entry)
      ++ { files := [(plan.root.child name, html)] }) later

/-- A page without panels that says why there is no document is what was written. -/
def WritesFailure (exchange : Exchange) (inv : Invocation) (before later : Session) : Prop :=
  ∃ plan verbose fault name html,
    ((runOn before (begin inv)).1 = .ok (plan, verbose) ∧
      (runOn before (Source.load exchange plan.config plan.source)).1 = .error (.load fault) ∧
      OutputPlan.pageName plan.output = .ok name) ∧
    Page.ofFailure fault.notice.forUser plan.config = .ok html ∧ (Anchors.ofPage html).panels = [] ∧
    (∃ loc, later.disk.locate (plan.root.child name) = .ok loc ∧ later.disk.node? loc = some (.file html.toUTF8)) ∧
    WritesExactly before { files := [(plan.root.child name, html)] } later

theorem writesExactly {before later : Session} {out : Products} (h : before.Leaves out later) :
    WritesExactly before out later :=
  ⟨h, h.file_iff⟩

end Run

theorem Page.panels_ofFailure {message html : String} {config : Value}
    (hok : ofFailure message config = .ok html) : (Anchors.ofPage html).panels = [] := by
  obtain ⟨_, title, address, mode, _, _, _, _, rfl⟩ := ofFailure_eq_ok hok
  rw [← besideFigures_errorPieces, Anchors.ofPage_besideFigures, errorPieces, ofPieces_documentPieces]
  simp [ofPieces_headingPieces, ofPieces_formPieces, ofPieces_resultsPieces, failurePieces,
    Anchors.ofAttributes_class, Anchors.append_def]

namespace Run

/-- Steps that are stopped have written nothing, or do not blame the configuration. -/
def Stopped (before : Session) (fault : Fault) (later : Session) : Prop :=
  fault.SparesConfig ∨ before.SameProducts later

variable {α β : Type} {exchange : Exchange} {inv : Invocation} {before session : Session}

theorem quiet_tell (notice : Notice) : Quiet (tell notice) :=
  .print _

/-- As long as nothing was written, steps that write nothing may come first. -/
theorem ends_behind {steps : Act α} {next : α → Act β} {good : β → Session → Prop} (hquiet : Quiet steps)
    (hsame : before.SameProducts session)
    (hnext : ∀ a later, runOn session steps = (.ok a, later) → before.SameProducts later →
      Ends later (next a) good (Stopped before)) :
    Ends session (steps >>= next) good (Stopped before) :=
  hquiet.ends_bind (fun a later hrun hlater => hnext a later hrun (hsame.trans hlater))
    fun _ _ hlater => .inr (hsame.trans hlater)

theorem ends_writeFailure (hsame : before.SameProducts session) {plan : Plan} {verbose : Bool} {fault : LoadFault}
    (hplan : (runOn before (begin inv)).1 = .ok (plan, verbose))
    (hload : (runOn before (Source.load exchange plan.config plan.source)).1 = .error (.load fault)) :
    Ends session (writeFailure plan fault.notice) (fun _ later => WritesFailure exchange inv before later)
      (Stopped before) := by
  refine ends_behind (quiet_tell _) hsame fun _ told _ htold => ?_
  refine .ofResult_bind (fun name hname => ?_) fun _ _ => .inr htold
  refine .ofResult_bind (fun html hhtml => ?_) fun _ _ => .inr htold
  refine ((Page.writes_write html _).map _).ends (fun _ later _ hleaves => ?_) fun _ _ => .inl
  exact ⟨plan, verbose, fault, name, html, ⟨hplan, hload, hname⟩, hhtml, Page.panels_ofFailure hhtml,
    hleaves.disk.stands, writesExactly (htold.leaves_trans hleaves)⟩

theorem ends_writeAll (hsame : before.SameProducts session) {plan : Plan} {verbose : Bool} {document : Document}
    {book : Workbook} (hplan : (runOn before (begin inv)).1 = .ok (plan, verbose))
    (hload : (runOn before (Source.load exchange plan.config plan.source)).1 = .ok document)
    (hbook : Workbook.ofDocument document = .ok book) :
    Ends session (writeAll book plan.config plan.root) (fun _ later => WritesReport exchange inv before later)
      (Stopped before) := by
  have hnames : (Entries.keys document).Nodup := by
    rw [Source.runOn_load] at hload
    exact Source.nodup_names_of_documentOn hload
  have hnumbered : book.Numbered := .of_document hnames hbook
  -- the last check of the configuration comes before the first folder
  refine .ofResult_bind (fun output houtput => ?_) fun _ _ => .inr hsame
  refine .bind ((Writes.makeFolders Fault.sparesConfig_disk _).ends (fun _ made _ hmade => ?_) fun _ _ => .inl)
  refine .bind ((Page.writes_ofWorkbook hnumbered plan.config).ends (fun html drawn hpage hdrawn => ?_) fun _ _ => .inl)
  refine .ofResult_bind (fun name hname => ?_) fun fault hfault => .inl (SparesConfig.toldEntry _ _ _ fault hfault)
  refine (Page.writes_write html _).ends (fun _ later _ hlater => ?_) fun _ _ => .inl
  exact ⟨plan, verbose, document, book, output, name, html, ⟨hplan, hload, hbook, houtput, hname⟩,
    Page.pieces_of_ofWorkbook hnumbered (congrArg Prod.fst hpage), hlater.disk.stands,
    ⟨(Workbook.names_and_ids_of_document hbook).1, hnumbered.nodup_ids, fun entry _ => Page.nodup_drawnViews ..⟩,
    writesExactly (hsame.leaves_trans ((hmade.trans hdrawn).trans hlater))⟩

/-- What loading ends with is the same behind steps that write nothing. -/
theorem runOn_load_of_same (hsame : before.SameProducts session) (plan : Plan) :
    (runOn session (Source.load exchange plan.config plan.source)).1 =
      (runOn before (Source.load exchange plan.config plan.source)).1 := by
  rw [Source.runOn_load, Source.runOn_load, hsame.disk]

/-- What a report that is not stopped leaves behind, by its status. -/
def WritesBy (exchange : Exchange) (inv : Invocation) (before : Session) (status : Nat) (later : Session) : Prop :=
  status = 0 ∧ WritesReport exchange inv before later ∨ status = 1 ∧ WritesFailure exchange inv before later

theorem ends_document (hsame : before.SameProducts session) {plan : Plan} {verbose : Bool} {document : Document}
    (hplan : (runOn before (begin inv)).1 = .ok (plan, verbose))
    (hload : (runOn before (Source.load exchange plan.config plan.source)).1 = .ok document) :
    Ends session (do
      let book ← workbook document
      discard (writeAll book plan.config plan.root)
      return 0) (WritesBy exchange inv before) (Stopped before) := by
  refine ends_behind (quiet_workbook document) hsame fun book computed hrun hcomputed => ?_
  have hbook := ofDocument_of_workbook ⟨session, computed, hrun⟩
  refine .bind (.map _ ((ends_writeAll hcomputed hplan hload hbook).imp ?_))
  exact fun _ later hwritten => .inl ⟨rfl, hwritten⟩

theorem ends_loading (hsame : before.SameProducts session) {plan : Plan} {verbose : Bool}
    (hplan : (runOn before (begin inv)).1 = .ok (plan, verbose)) :
    Ends session (do
      match ← attempt (Source.load exchange plan.config plan.source) with
      | .error (.load fault) =>
        writeFailure plan fault.notice
        return 1
      | .error fault => throw fault
      | .ok document =>
        if verbose then print (loadedLine document)
        let book ← workbook document
        discard (writeAll book plan.config plan.root)
        return 0) (WritesBy exchange inv before) (Stopped before) := by
  refine ends_behind (Source.quiet_load exchange plan.config plan.source).attempt hsame
    fun loaded later hrun hlater => ?_
  have hloaded : (runOn before (Source.load exchange plan.config plan.source)).1 = loaded := by
    rw [← runOn_load_of_same hsame]
    exact Except.ok.inj (congrArg Prod.fst hrun)
  split
  next fault =>
    exact .bind ((ends_writeFailure hlater hplan hloaded).imp fun _ _ hwritten => .inr ⟨rfl, hwritten⟩)
  next fault _ => exact .inr hlater
  next document =>
    refine .ite ?_ (ends_document hlater hplan hloaded)
    exact ends_behind (.print _) hlater fun _ _ _ hprinted => ends_document hprinted hplan hloaded

theorem ends_report (exchange : Exchange) (inv : Invocation) (before : Session) :
    Ends before (report exchange inv) (WritesBy exchange inv before) (Stopped before) := by
  refine ends_behind (quiet_begin inv) (.refl before) fun plan begun hbegin hbegun => ?_
  have hplan : (runOn before (begin inv)).1 = .ok (plan.1, plan.2) := congrArg Prod.fst hbegin
  refine .ite ?_ (ends_loading hbegun hplan)
  refine ends_behind (.print _) hbegun fun _ first _ hfirst => ?_
  exact ends_behind (.print _) hfirst fun _ second _ hsecond => ends_loading hsecond hplan

/-- What the status of a run tells, whatever the configuration, the source and the way a request ends: with zero
the page and the files of all datasets were written and nothing else, with one a page that says why there is no
document and nothing else, and with two nothing at all; there is no other status. -/
theorem ofWords_leaves {words : List String} (hwords : Invocation.parse words = .ok (.report inv)) {status : Nat}
    {later : Session} (hrun : runOn before (ofWords exchange words) = (.ok status, later)) :
    status = 0 ∧ WritesReport exchange inv before later ∨
      status = 1 ∧ WritesFailure exchange inv before later ∨
      status = 2 ∧ later.disk = before.disk ∧ later.matrices = before.matrices ∧
        later.pictures = before.pictures := by
  have hreport := ends_report exchange inv before
  unfold Ends at hreport
  rw [ofWords, hwords] at hrun
  obtain ⟨result, middle, hattempt, hlast⟩ | ⟨_, _, _, hresult⟩ := Steps.runOn_bind_cases hrun
  · rcases hcase : runOn before (report exchange inv) with ⟨result', reported⟩
    rw [hcase] at hreport
    have hsame : (Except.ok result', reported) = ((.ok result, middle) : Except Fault _ × Session) := by
      rw [← hattempt]
      show _ = runOn before (attempt (report exchange inv))
      rw [runOn_attempt, hcase]
    cases hsame
    split at hlast
    next found =>
      cases hlast
      exact hreport.imp_right .inl
    next fault =>
      cases hlast
      rcases hreport with hspares | hkept
      · exact absurd rfl (hspares fault)
      · exact .inr (.inr ⟨rfl, hkept.disk, hkept.matrices, hkept.pictures⟩)
    next => cases hlast
  · cases hresult

/-- A session whose working folder holds a document of one dataset with one record, and a configuration that asks for a
matrix file and for pictures. -/
def besideDocument : Session :=
  let document := "\x7b\"a\":\x7b\"uncompressed-size\":300,\"data\":[" ++
    "\x7b\"plugin\":\"p\",\"codec\":\"c\",\"size\":100,\"compress_cpu\":1,\"decompress_cpu\":2\x7d]\x7d\x7d"
  let config := "reports:\n  format: mat\nplots:\n  static_png: true\n"
  { disk := { home := [], nodes := [(["data.json"], .file document.toUTF8), (["c.yaml"], .file config.toUTF8)] } }

theorem ofWords_leaves_threeRuns :
    (∃ later, runOn besideDocument (ofWords .timedOut ["--config", "c.yaml"]) = (.ok 0, later) ∧
      WritesReport .timedOut { config := some (Path.ofText "c.yaml") } besideDocument later ∧
      later.matrices.length = 1 ∧ later.pictures.length = 5) ∧
    (∃ later, runOn { disk := { home := [] } } (ofWords .timedOut []) = (.ok 1, later) ∧
      WritesFailure .timedOut {} { disk := { home := [] } } later) ∧
    ∃ later, runOn { disk := { home := [] } } (ofWords .timedOut ["--config", "x"]) = (.ok 2, later) ∧
      later.disk = { home := [] } := by
  -- a run that ends is known by its status and by how much it made
  have hrun {session : Session} {words : List String} {status matrices pictures : Nat}
      (hmade : (match runOn session (ofWords .timedOut words) with
        | (.ok found, later) => found == status && later.matrices.length == matrices &&
          later.pictures.length == pictures
        | (.error _, _) => false) = true) :
      ∃ later, runOn session (ofWords .timedOut words) = (.ok status, later) ∧
        later.matrices.length = matrices ∧ later.pictures.length = pictures := by
    rcases hcase : runOn session (ofWords .timedOut words) with ⟨fault | found, later⟩ <;> rw [hcase] at hmade
    · cases hmade
    · simp only [Bool.and_eq_true, beq_iff_eq] at hmade
      obtain ⟨⟨rfl, hmatrices⟩, hpictures⟩ := hmade
      exact ⟨later, rfl, hmatrices, hpictures⟩
  refine ⟨?_, ?_, ?_⟩
  · obtain ⟨later, hdone, hmade⟩ : ∃ later,
        runOn besideDocument (ofWords .timedOut ["--config", "c.yaml"]) = (.ok 0, later) ∧
          later.matrices.length = 1 ∧ later.pictures.length = 5 := hrun (by decide +kernel)
    have hwords : Invocation.parse ["--config", "c.yaml"] =
        .ok (.report { config := some (Path.ofText "c.yaml") }) := by
      with_unfolding_all rfl
    obtain ⟨_, hwritten⟩ | ⟨hstatus, _⟩ | ⟨hstatus, _⟩ := ofWords_leaves hwords hdone
    · exact ⟨later, hdone, hwritten, hmade⟩
    · cases hstatus
    · cases hstatus
  · obtain ⟨later, hdone, _⟩ : ∃ later, runOn { disk := { home := [] } } (ofWords .timedOut []) = (.ok 1, later) ∧
        later.matrices.length = 0 ∧ later.pictures.length = 0 := hrun (by decide +kernel)
    obtain ⟨hstatus, _⟩ | ⟨_, hwritten⟩ | ⟨hstatus, _⟩ := ofWords_leaves rfl hdone
    · cases hstatus
    · exact ⟨later, hdone, hwritten⟩
    · cases hstatus
  · obtain ⟨later, hdone, _⟩ : ∃ later,
        runOn { disk := { home := [] } } (ofWords .timedOut ["--config", "x"]) = (.ok 2, later) ∧
          later.matrices.length = 0 ∧ later.pictures.length = 0 := hrun (by decide +kernel)
    have hwords : Invocation.parse ["--config", "x"] = .ok (.report { config := some (Path.ofText "x") }) := by
      with_unfolding_all rfl
    obtain ⟨hstatus, _⟩ | ⟨hstatus, _⟩ | ⟨_, hdisk, _⟩ := ofWords_leaves hwords hdone
    · cases hstatus
    · cases hstatus
    · exact ⟨later, hdone, hdisk⟩

end Run

end CodecReport
