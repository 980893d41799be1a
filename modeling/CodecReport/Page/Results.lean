import CodecReport.Page.Document
import CodecReport.Panel.Board
import CodecReport.Text.Casing

/-!
# The results page

The panels of all datasets, each drawn on a cleared board, and a list that links to them when there are
several. Rows that the configuration highlights are selected in the first view of a panel, which relays
them to the others, before the panel is taken into the page.
-/

namespace CodecReport.Page

/-- What the configuration highlights, in small letters. -/
def highlightKeys (wanted : List Value) : Except Fault (List String) :=
  wanted.mapM fun w => Text.lower <$> w.told

/-- Whether a record is highlighted: by its codec or by plugin and codec. -/
def isHighlighted (keys : List String) (m : Measurement) : Bool :=
  keys.contains (Text.lower (m.plugin ++ ":" ++ m.codec)) || keys.contains (Text.lower m.codec)

def highlightRows (keys : List String) (ds : Dataset) : Selection :=
  (ds.records.zipIdx.filter fun (m, _) => isHighlighted keys m).map fun (_, i) => ⟨some i, none⟩

def highlights (page : Value) : Except Fault (List Value) := do
  (← page.entryD "highlight" (.list [])).orEmpty.members

def board (book : Workbook) (page : Value) : Except Fault Board := do
  let width ← page.entryD "panel_width" (.float Board.defaultWidth)
  match width.toDouble with
  | .ok width => return { book, width, aspect := Board.defaultAspect }
  | .error fault => throw (.conversion fault)

/-- The name under which failures to draw are logged. -/
def boardLogName : String := "squash_BenchmarkReporter.core.registry"

/-- Selects the highlighted rows of a dataset in the first of the visualizations on show. -/
def highlight (board : Board) (wanted : List Value) (ds : Dataset) : Act Board := do
  match highlightRows (← Act.ofResult (highlightKeys wanted)) ds, board.shown with
  | [], _ | _, [] => return board
  | selection, first :: _ =>
    let (outcome, board) := (board.select first selection).redraw
    Act.ofResult outcome
    return board

/-- Shows a dataset with its highlighted rows selected. -/
def present (board : Board) (wanted : List Value) (name : String) (sheet : Sheet) : Act Board := do
  let board ← Act.ofResult (board.render name)
  for notice in (board.current.map Panel.notices).getD [] do
    Act.log .error boardLogName notice.logLine
  highlight board wanted sheet.dataset

/-- The panels of the given sheets. `onPanel` runs while a panel is on show. -/
def panels (initial : Option String) (wanted : List Value) (onPanel : String → Board → Act Unit) :
    Workbook → Board → Act (Entries String × Board)
  | [], board => return ([], board)
  | (name, sheet) :: rest, board => do
    let board ← present board wanted name sheet
    onPanel name board
    let html ← Act.ofResult (board.html (initial ≠ some name))
    for notice in (board.current.map Panel.notices).getD [] do
      Act.print ("[WARN] " ++ name ++ ": " ++ notice.logLine)
    let (more, board) ← panels initial wanted onPanel rest board
    return ((name, html) :: more, board)

/-- The panels of a workbook by dataset name, drawn on the given board or on one of the page's own, which
is cleared at the end. -/
def renderPanels (book : Workbook) (config : Value) (given : Option Board)
    (onPanel : String → Board → Act Unit) : Act (Entries String × Board) := do
  let page ← Act.ofResult (settings config)
  let board ← match given with
    | some board => pure board
    | none => Act.ofResult (board book page)
  let wanted ← Act.ofResult (highlights page)
  let (panels, board) ← panels book.initial? wanted onPanel book board
  return (panels, board.clear)

def navigationHtml (book : Workbook) : String :=
  "<ul id=\"datasets-list\">"
    ++ String.join (book.map fun (name, sheet) =>
      "<li><a href=\"#" ++ sheet.id ++ "\">" ++ Text.escape name ++ "</a></li>")
    ++ "</ul>"

def emptyText : String := "The benchmark document contains no datasets."

def ofWorkbook (book : Workbook) (config : Value) (onPanel : String → Board → Act Unit) : Act String := do
  let page ← Act.ofResult (settings config)
  let title ← Act.ofResult (title page)
  let address ← Act.ofResult (prefill page)
  let (panels, _) ← renderPanels book config none onPanel
  let results := if book.isEmpty then failureHtml emptyText else String.join (panels.map (·.2))
  let navigation := if 1 < book.length then [navigationHtml book] else []
  return document title ([headingHtml title, formHtml address] ++ navigation ++ [resultsHtml results])
    (← Act.ofResult (libraryMode page))

def write (html : String) (path : Path) : Act Path := do
  Act.makeFolders path.parent
  Act.writeFile path html
  Act.print ("[OK] wrote page → " ++ path.text)
  return path

end CodecReport.Page
