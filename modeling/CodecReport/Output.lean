import CodecReport.Page.Results
import CodecReport.Report.Basic

/-!
# The output of a run

One page for the whole document, and for every dataset, while its panel is on show, the report files and,
if asked for, the pictures of its charts.
-/

namespace CodecReport

def defaultPageName : String := "index.html"

/-- Where the pictures of a dataset go when nothing of its name can stand in a file's name. -/
def pictureLabel (dataset : String) : String :=
  let label := Text.fileLabel dataset
  if label = "" then Text.namelessLabel else label

/-- Saves every chart among the given visualizations as a picture; tables are left out, and so is what was
never drawn. -/
def savePictures (folder : Path) (dataset : String) (dpi : Value) : List Visual → Act (List Path)
  | [] => return []
  | visual :: rest => do
    match visual.form.isChart, visual.view with
    | true, some view =>
      let path := folder.child (pictureLabel dataset ++ "_" ++ view.id ++ ".png")
      visual.save path dpi
      Act.print ("[OK] " ++ dataset ++ " [" ++ view.id ++ "] → " ++ path.text)
      return path :: (← savePictures folder dataset dpi rest)
    | _, _ => savePictures folder dataset dpi rest

structure OutputPlan where
  /-- The format of the reports; none for no reports. -/
  reports : Option ReportFormat
  variableName : String
  pictures : Bool
  dpi : Int
  verbose : Bool
  /-- The section about the output, which is asked for the page's name when there is a page. -/
  output : Value

namespace OutputPlan

/-- The report format that a configuration names, in letters of any case. -/
def reportFormat (name : String) : Except Fault (Option ReportFormat) :=
  let name := Text.lower name
  match ReportFormat.ofText? name with
  | some format => .ok (some format)
  | none => if name = "none" then .ok none else .error (.config (.reportFormat name))

def ofConfig (config : Value) : Except Fault OutputPlan := do
  let output ← config.configSection "output"
  let reports ← config.configSection "reports"
  let plots ← config.configSection "plots"
  let logging ← config.configSection "logging"
  let verbose := (← logging.entryD "verbose" (.bool true)).truthy
  let format ← reportFormat (← reports.toldEntry "format" "csv")
  let variableName ← reports.toldEntry "mat_variable" "report"
  let pictures := (← plots.entryD "static_png" (.bool false)).truthy
  match (← plots.entryD "dpi" (.int 160)).toInt with
  | .ok dpi => return { reports := format, variableName, pictures, dpi, verbose, output }
  | .error fault => throw (.conversion fault)

def pageName (output : Value) : Except Fault String :=
  output.toldEntry "page_name" defaultPageName

end OutputPlan

def summaryLine (name : String) (t : Table) : String :=
  "[summary] " ++ name ++ ": " ++ toString t.rowCount ++ " row(s), " ++ toString t.warnings.length
    ++ " non-finite cell(s)"

/-- Writes the files of one dataset into its folder while its panel is on show. -/
def writeFiles (plan : OutputPlan) (folder : Path) (name : String) (sheet : Sheet) (board : Board) :
    Act Unit := do
  match plan.reports with
  | some format => discard (Report.write sheet (folder.child "report") format plan.variableName)
  | none => pure ()
  if plan.pictures then
    discard (savePictures (folder.child "plots") name (.int plan.dpi)
      (board.shown.filterMap fun m => board.visuals[m]?))
  if plan.verbose then Act.print (summaryLine name sheet.table)

/-- Every dataset has the folder that its id names. -/
def writeSheet (plan : OutputPlan) (root : Path) (name : String) (board : Board) : Act Unit := do
  let sheet ← Act.ofResult (board.book.find name)
  writeFiles plan (root.child sheet.id) name sheet board

/-- Writes the page and all other files of a workbook. -/
def writeAll (book : Workbook) (config : Value) (root : Path) : Act Path := do
  let plan ← Act.ofResult (OutputPlan.ofConfig config)
  Act.makeFolders root
  let html ← Page.ofWorkbook book config (writeSheet plan root)
  let pageName ← Act.ofResult (OutputPlan.pageName plan.output)
  Page.write html (root.child pageName)

end CodecReport
