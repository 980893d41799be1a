import CodecReport.Proofs.Output.Pictures
import CodecReport.Proofs.Page.Links
import CodecReport.Proofs.Report.Reading
import CodecReport.Proofs.Text.FileLabel

/-!
# The files of the datasets

While the panel of a dataset is on show its files are written: the report in the format that is configured and,
if asked for, a picture of every chart of the panel that could be drawn, all of them in the folder that is named
by the id of the dataset. Nothing else is written while the panels of a page are made.
-/

namespace CodecReport

open Act
open Board (Sound SameFrame Depicts)

/-- A place in the folder of a dataset. -/
def inFolder (root : Path) (sheet : Sheet) (names : List String) : Path :=
  { root with parts := root.parts ++ sheet.id :: names }

def pictureFile (dataset : String) (view : View) : String :=
  pictureLabel dataset ++ "_" ++ view.id ++ ".png"

/-- What a run writes for a dataset of which these views are drawn. -/
def sheetProducts (plan : OutputPlan) (root : Path) (drawn : List View) (entry : String × Sheet) : Products where
  files := if plan.reports.any ReportFormat.hasCsv then
      [(inFolder root entry.2 ["report.csv"], (Report.ofSheet entry.2).csv entry.2.dataset.records.length)]
    else []
  matrices := if plan.reports.any ReportFormat.hasMatrix then [{
      path := inFolder root entry.2 ["report.mat"], variableName := plan.variableName
      fields := (Report.ofSheet entry.2).matrixFields }]
    else []
  pictures := if plan.pictures then (drawn.filter (·.form.isChart)).map fun view =>
      (inFolder root entry.2 ["plots", pictureFile entry.1 view]).text
    else []

/-- The views of a sheet that are drawn on a board. -/
def Board.drawnViews (board : Board) (sheet : Sheet) : List View :=
  sheet.table.views.filter fun view => (board.drawing sheet view).isOk

/-! ### Names of files -/

theorem slash_not_mem_of_mem_views {table : Table} {view : View} (hview : view ∈ table.views) :
    '/' ∉ view.id.toList := by
  obtain ⟨plan, hplan, rfl⟩ := List.mem_map.mp hview
  have hplans : ∀ plan ∈ ViewPlan.standard, '/' ∉ plan.id.toList := by decide +kernel
  exact hplans plan hplan

theorem slash_not_mem_pictureLabel (dataset : String) : '/' ∉ (pictureLabel dataset).toList := by
  intro hmem
  rw [pictureLabel] at hmem
  split at hmem
  · exact absurd hmem (by decide +kernel)
  · exact absurd (Text.isFileChar_of_mem_fileLabel dataset hmem) (by decide)

theorem child_pictureFile (p : Path) (dataset : String) {table : Table} {view : View}
    (hview : view ∈ table.views) :
    p.child (pictureFile dataset view) = { p with parts := p.parts ++ [pictureFile dataset view] } := by
  have hchars : (pictureFile dataset view).toList =
      (pictureLabel dataset).toList ++ ['_'] ++ view.id.toList ++ ".png".toList := by
    simp [pictureFile, String.toList_append]
  have hlong : 5 ≤ (pictureFile dataset view).toList.length := by
    rw [hchars, List.length_append, List.length_append, List.length_append]
    have hending : ".png".toList.length = 4 := by decide
    rw [hending, List.length_singleton]
    omega
  apply Workbook.child_of_plain
  · rw [hchars]
    simp only [List.mem_append, not_or]
    exact ⟨⟨⟨slash_not_mem_pictureLabel dataset, by decide⟩, slash_not_mem_of_mem_views hview⟩, by decide⟩
  all_goals
    intro hsame
    rw [hsame] at hlong
    exact absurd hlong (by decide)

theorem withEnding_report (p : Path) (ending : String) :
    (p.child "report").withEnding? ending = some { p with parts := p.parts ++ ["report" ++ ending] } := by
  rw [Workbook.child_of_plain p (by decide) (by decide) (by decide), Path.withEnding?]
  simp only [List.getLast?_append, List.getLast?_singleton, Option.some_or, List.dropLast_concat]
  have hstem : String.ofList (Path.stem "report".toList) = "report" := by decide +kernel
  rw [hstem]

/-! ### One dataset -/

variable {plan : OutputPlan} {root : Path}

theorem Act.Writes.map {α β : Type} {faults : Fault → Prop} {steps : Act α} {out : Products} (f : α → β)
    (h : Writes faults steps out) : Writes faults (f <$> steps) out := by
  rw [map_eq_pure_bind]
  exact h.followed fun a => .pure (f a)

theorem pictureName?_of_view {folder : Path} {dataset : String} {visual : Visual} {view : View}
    (hview : visual.view = some view) : pictureName? folder dataset visual =
      if visual.form.isChart then some (folder.child (pictureFile dataset view)).text else none := by
  rw [pictureName?, hview]
  cases visual.form.isChart <;> rfl

/-- The pictures of what is drawn of views are those of the charts among them. -/
theorem pictureNames_visualOf (board : Board) (sheet : Sheet) (dataset : String) {drawn : List View}
    (hdrawn : ∀ view ∈ drawn, view ∈ sheet.table.views) :
    (drawn.map (board.visualOf sheet)).filterMap
        (pictureName? { root with parts := root.parts ++ [sheet.id, "plots"] } dataset) =
      (drawn.filter (·.form.isChart)).map fun view =>
        (inFolder root sheet ["plots", pictureFile dataset view]).text := by
  induction drawn with
  | nil => rfl
  | cons view rest ih =>
    obtain ⟨hview, hrest⟩ := List.forall_mem_cons.mp hdrawn
    have hfile : ({ root with parts := root.parts ++ [sheet.id, "plots"] } : Path).child
        (pictureFile dataset view) = inFolder root sheet ["plots", pictureFile dataset view] := by
      rw [child_pictureFile _ dataset hview, inFolder, List.append_assoc]
      rfl
    have hform : (board.visualOf sheet view).form = view.form := rfl
    have hshown : (board.visualOf sheet view).view = some view := rfl
    rw [List.map_cons, List.filterMap_cons, List.filter_cons, ih hrest, pictureName?_of_view hshown, hform, hfile]
    cases view.form.isChart <;> rfl

theorem products_of_format (root : Path) (sheet : Sheet) (format : ReportFormat) (variableName : String) :
    Report.products sheet (Path.child { root with parts := root.parts ++ [sheet.id] } "report") format
        variableName =
      ⟨if format.hasCsv then
          [(inFolder root sheet ["report.csv"], (Report.ofSheet sheet).csv sheet.dataset.records.length)]
        else [],
        if format.hasMatrix then
          [⟨inFolder root sheet ["report.mat"], variableName, (Report.ofSheet sheet).matrixFields⟩] else [],
        []⟩ := by
  have hfile (ending : String) : (Path.child { root with parts := root.parts ++ [sheet.id] } "report").withEnding?
      ending = some (inFolder root sheet ["report" ++ ending]) := by
    rw [withEnding_report, inFolder, List.append_assoc]
    rfl
  rw [Report.products, hfile, hfile]
  rfl

theorem writes_pictures (board : Board) {sheet : Sheet} (name : String) :
    Writes Fault.SparesConfig (savePictures (Path.child { root with parts := root.parts ++ [sheet.id] } "plots")
        name (.int plan.dpi) (board.drawnOf sheet sheet.table.views))
      { pictures := ((board.drawnViews sheet).filter (·.form.isChart)).map fun view =>
          (inFolder root sheet ["plots", pictureFile name view]).text } := by
  have hfolder : Path.child { root with parts := root.parts ++ [sheet.id] } "plots" =
      { root with parts := root.parts ++ [sheet.id, "plots"] } := by
    rw [Workbook.child_of_plain _ (by decide) (by decide) (by decide), List.append_assoc]
    rfl
  have hviews : ∀ view ∈ board.drawnViews sheet, view ∈ sheet.table.views :=
    fun view hview => (List.mem_filter.mp hview).1
  rw [hfolder, ← pictureNames_visualOf board sheet name hviews]
  exact writes_savePictures ..

/-- What is written for a dataset of which a panel is on show. -/
theorem writes_writeFiles (board : Board) {shown : Board} {sheet : Sheet} (name : String)
    (hshown : (shown.shown.filterMap fun m => shown.visuals[m]?) = board.drawnOf sheet sheet.table.views) :
    Writes Fault.SparesConfig
      (writeFiles plan { root with parts := root.parts ++ [sheet.id] } name sheet shown)
      (sheetProducts plan root (board.drawnViews sheet) (name, sheet)) := by
  have hsummary : Writes Fault.SparesConfig
      (if plan.verbose then print (summaryLine name sheet.table) else pure ()) {} := by
    split
    · exact .print _
    · exact .pure ()
  have hpictures : Writes Fault.SparesConfig (if plan.pictures then (do
        discard (savePictures (Path.child { root with parts := root.parts ++ [sheet.id] } "plots") name
          (.int plan.dpi) (shown.shown.filterMap fun m => shown.visuals[m]?))
        if plan.verbose then print (summaryLine name sheet.table) else pure ())
      else (if plan.verbose then print (summaryLine name sheet.table) else pure ()))
      { pictures := (sheetProducts plan root (board.drawnViews sheet) (name, sheet)).pictures } := by
    rw [hshown, sheetProducts]
    split
    · exact ((writes_pictures board name).map _).followed fun _ => hsummary
    · exact hsummary
  rw [writeFiles]
  cases hformat : plan.reports with
  | none =>
    have hnone : sheetProducts plan root (board.drawnViews sheet) (name, sheet) =
        { pictures := (sheetProducts plan root (board.drawnViews sheet) (name, sheet)).pictures } := by
      rw [sheetProducts, hformat]
      rfl
    rw [hnone]
    exact hpictures
  | some format =>
    have hreport : Writes Fault.SparesConfig (Report.write sheet
        (Path.child { root with parts := root.parts ++ [sheet.id] } "report") format plan.variableName) _ :=
      Report.writes_write Fault.sparesConfig_disk nofun sheet format plan.variableName
    have hboth := (hreport.map fun _ => ()).bind fun _ _ => hpictures
    rw [products_of_format, Products.append_def, List.append_nil, List.append_nil, List.nil_append] at hboth
    rw [sheetProducts, hformat] at hboth ⊢
    exact hboth

/-! ### All panels -/

namespace Board

variable {board shown : Board} {sheet : Sheet}

theorem SameFrame.drawnViews (h : SameFrame board shown) (sheet : Sheet) :
    shown.drawnViews sheet = board.drawnViews sheet := by
  rw [Board.drawnViews, Board.drawnViews]
  simp only [drawing, h.draw, h.visualOf]

/-- What is on show was drawn of the views of the sheet, in their order. -/
theorem Depicts.visuals_eq {name : String} {selection : Selection} (h : shown.Depicts name sheet selection)
    (hframe : SameFrame board shown) :
    (shown.shown.filterMap fun m => shown.visuals[m]?) = board.drawnOf sheet sheet.table.views := by
  obtain ⟨slots, hcurrent, hslots⟩ := h.current
  have hvisuals := visuals_of_shows hframe hslots
  rw [Board.shown, hcurrent]
  show (slots.filterMap Slot.visual?).filterMap (shown.visuals[·]?) = _
  have hmapped : (slots.filterMap Slot.visual?).filterMap (shown.visuals[·]?) =
      ((slots.filterMap Slot.visual?).map (shown.visuals[·]?)).filterMap id := by
    rw [List.filterMap_map]
    rfl
  rw [hmapped, hvisuals, List.filterMap_map]
  exact List.filterMap_some

end Board

namespace Page

variable {board : Board} {book : Workbook}

theorem sameProducts_foldl {α : Type} {change : Session → α → Session}
    (hchange : ∀ s a, Session.SameProducts s (change s a)) (items : List α) (session : Session) :
    Session.SameProducts session (items.foldl change session) := by
  induction items generalizing session with
  | nil => exact .refl session
  | cons a rest ih => exact (hchange session a).trans (ih _)

theorem sameProducts_logged (notices : List Notice) (session : Session) :
    Session.SameProducts session (logged notices session) := by
  apply sameProducts_foldl
  exact fun _ _ => ⟨rfl, rfl, rfl⟩

theorem sameProducts_warned (name : String) (notices : List Notice) (session : Session) :
    Session.SameProducts session (warned name notices session) := by
  apply sameProducts_foldl
  exact fun _ _ => ⟨rfl, rfl, rfl⟩

theorem writes_warned (name : String) (notices : List Notice) :
    Writes Fault.SparesConfig (forIn notices PUnit.unit fun notice _ => do
      Act.print ("[WARN] " ++ name ++ ": " ++ notice.logLine)
      pure (ForInStep.yield PUnit.unit) : Act PUnit) {} :=
  .of_runs fun session => ⟨_, _, runOn_warned name notices session, sameProducts_warned name notices session, .ok _⟩

theorem writes_present (h : Sound board) {name : String} {found : Sheet}
    (hfind : board.book.find name = .ok found) (wanted : List Value) (sheet : Sheet) :
    Writes Fault.SparesConfig (present board wanted name sheet) {} := by
  refine .of_runs fun session => ?_
  obtain ⟨outcome, hrun, houtcome⟩ := runOn_present h hfind wanted sheet session
  refine ⟨_, _, hrun, sameProducts_logged _ session, ?_⟩
  have hkeys := SparesConfig.highlightKeys wanted
  cases hcase : highlightKeys wanted with
  | ok keys =>
    rw [hcase] at houtcome
    obtain ⟨shown, rfl, _⟩ := houtcome
    exact .ok shown
  | error fault =>
    rw [hcase] at houtcome hkeys
    rw [houtcome]
    exact .error (hkeys fault rfl)

theorem depicts_of_present (h : Sound board) {name : String} {found : Sheet}
    (hfind : board.book.find name = .ok found) {wanted : List Value} {sheet : Sheet} {shown : Board}
    (hgives : Gives (present board wanted name sheet) shown) :
    Sound shown ∧ SameFrame board shown ∧ ∃ selection, shown.Depicts name found selection := by
  obtain ⟨session, later, hshown⟩ := hgives
  obtain ⟨outcome, hrun, houtcome⟩ := runOn_present h hfind wanted sheet session
  rw [hrun] at hshown
  cases hshown
  cases hcase : highlightKeys wanted with
  | ok keys =>
    rw [hcase] at houtcome
    obtain ⟨_, hsame, hsound, hframe, hdepicts⟩ := houtcome
    cases hsame
    exact ⟨hsound, hframe, _, hdepicts⟩
  | error fault =>
    rw [hcase] at houtcome
    cases houtcome

/-- While the panels are made, the files of each dataset are written and nothing else. -/
theorem writes_panels (hnumbered : book.Numbered) (h : Sound board) (hbook : board.book = book)
    (initial : Option String) (wanted : List Value) {rest : Workbook} (hrest : ∀ entry ∈ rest, entry ∈ book) :
    Writes Fault.SparesConfig (panels initial wanted (writeSheet plan root) rest board)
      (.ofEach rest fun entry => sheetProducts plan root (board.drawnViews entry.2) entry) := by
  induction rest generalizing board with
  | nil => exact .pure _
  | cons entry rest ih =>
    obtain ⟨hentry, hrest⟩ := List.forall_mem_cons.mp hrest
    have hfind : board.book.find entry.1 = .ok entry.2 := hbook ▸ hnumbered.find_eq hentry
    rw [panels]
    refine (writes_present h hfind wanted entry.2).andThen fun shown hgives => ?_
    obtain ⟨hsound, hframe, selection, hdepicts⟩ := depicts_of_present h hfind hgives
    have hshown : shown.book = book := hframe.book.trans hbook
    rw [writeSheet_eq hnumbered hentry hshown, Products.ofEach_cons]
    refine (writes_writeFiles board entry.1 (hdepicts.visuals_eq hframe)).bind fun _ _ => ?_
    refine .ofResult_bind (hdepicts.html_eq _ ▸ .ok _) fun html _ => ?_
    refine (writes_warned _ _).andThen fun _ _ => ?_
    have hmore := ih hsound hshown hrest
    simp only [hframe.drawnViews] at hmore
    exact hmore.followed fun _ => .pure _

/-- The views of a sheet that are drawn in the page of a workbook. -/
def drawnViews (book : Workbook) (config : Value) (sheet : Sheet) : List View :=
  match settings config >>= Page.board book with
  | .ok own => own.drawnViews sheet
  | .error _ => []

/-- Different views have different ids, and so have their pictures. -/
theorem nodup_drawnViews (book : Workbook) (config : Value) (sheet : Sheet) :
    ((drawnViews book config sheet).map View.id).Nodup := by
  have hviews : (sheet.table.views.map View.id).Nodup := by
    rw [Table.views, List.map_map]
    show (ViewPlan.standard.map ViewPlan.id).Nodup
    decide
  rw [drawnViews]
  split
  · exact hviews.sublist (List.filter_sublist.map _)
  · exact List.nodup_nil

theorem writes_ofWorkbook (hnumbered : book.Numbered) (config : Value) :
    Writes Fault.SparesConfig (ofWorkbook book config (writeSheet plan root))
      (.ofEach book fun entry => sheetProducts plan root (drawnViews book config entry.2) entry) := by
  have hpanels {page : Value} (hpage : settings config = .ok page) : Writes Fault.SparesConfig
      (renderPanels book config none (writeSheet plan root))
      (.ofEach book fun entry => sheetProducts plan root (drawnViews book config entry.2) entry) := by
    refine .ofResult_bind (SparesConfig.settings config) fun page' hpage' => ?_
    cases hpage.symm.trans hpage'
    refine .ofResult_bind (SparesConfig.board book page) fun own hown => ?_
    refine .ofResult_bind (SparesConfig.highlights page) fun wanted _ => ?_
    obtain ⟨hsound, hbook⟩ := sound_of_board hown
    have hdrawn (sheet : Sheet) : drawnViews book config sheet = own.drawnViews sheet := by
      rw [drawnViews, hpage]
      show (match Page.board book page with | .ok own => _ | .error _ => _) = _
      rw [hown]
    simp only [hdrawn]
    exact (writes_panels hnumbered hsound hbook _ wanted fun _ h => h).followed fun _ => .pure _
  refine .ofResult_bind (SparesConfig.settings config) fun page hpage => ?_
  refine .ofResult_bind (SparesConfig.toldEntry page _ _) fun title _ => ?_
  refine .ofResult_bind (SparesConfig.prefill page) fun address _ => ?_
  exact (hpanels hpage).followed fun _ =>
    (Writes.ofResult (SparesConfig.toldEntry page _ _)).andThen fun _ _ => .pure _

theorem writes_write (html : String) (path : Path) :
    Writes Fault.SparesConfig (Page.write html path) { files := [(path, html)] } := by
  refine (Writes.makeFolders Fault.sparesConfig_disk _).andThen fun _ _ => ?_
  refine (Writes.writeFile Fault.sparesConfig_disk _ _).followed fun _ => ?_
  exact (Writes.print _).andThen fun _ _ => .pure _

end Page

end CodecReport
