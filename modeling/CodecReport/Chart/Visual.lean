import CodecReport.Chart.Picture
import CodecReport.Selection.Network

/-!
# Visualizations

A visualization has a form and a place in the page. Once it was drawn it knows its view and options, and
can be drawn again with another selection.
-/

namespace CodecReport

/-- A visualization. `container` is the id of its element in the page. -/
structure Visual where
  form : Form
  container : String
  view : Option View := none
  options : ChartOptions := []

namespace Visual

def label (v : Visual) : String :=
  "<" ++ v.form.kindName ++ " " ++ v.container ++ ">"

def selectedRows (v : Visual) (selection : Selection) : List Nat :=
  match v.view with
  | some view => selection.rows view.table.rowCount
  | none => []

/-- The text of a cell: a number with two places, anything else as it is shown. -/
def cellText (kind : CellKind) (cell : Value) : Except Fault String :=
  match kind with
  | .number => match cell.toDouble with
    | .ok d => .ok d.fixed2
    | .error fault => .error (.conversion fault)
  | .text => .ok (Text.escape cell.shown)

def rowHtml (columns : List Column) (selected : List Nat) (index : Nat) (row : List Value) :
    Except Fault String := do
  let cells ← (row.zip columns).mapM fun (cell, column) => do
    return "<td>" ++ (← cellText column.kind cell) ++ "</td>"
  return "<tr data-row=\"" ++ toString index ++ "\""
    ++ (if selected.contains index then " class=\"selected\"" else "") ++ ">"
    ++ String.join cells ++ "</tr>"

def headHtml (columns : List Column) : String :=
  String.join (columns.map fun c => "<th>" ++ Text.escape c.label ++ "</th>")

def tableHtml (container : String) (view : View) (selected : List Nat) : Except Fault String := do
  let columns ← view.columns
  let rows ← (← view.frame).rows.zipIdx.mapM fun (row, index) => rowHtml columns selected index row
  return "<table id=\"" ++ container ++ "\" class=\"results-table\"><thead><tr>" ++ headHtml columns
    ++ "</tr></thead><tbody>" ++ String.join rows ++ "</tbody></table>"

def figure (form : Form) (view : View) (options : ChartOptions) (selected : List Nat) :
    Except Fault Figure :=
  match form with
  | .bar => Figure.bars view options selected
  | .scatter => Figure.scatter view options selected
  | _ => .error .formless

def html (v : Visual) (selection : Selection) : Except Fault String :=
  match v.form, v.view with
  | .table, some view => tableHtml v.container view (v.selectedRows selection)
  | form, some view => do
    return (← figure form view v.options (v.selectedRows selection)).html v.container
  | _, none => .error .formless

def onView (v : Visual) (view : View) (options : ChartOptions) : Visual :=
  { v with view := some view, options }

def save (v : Visual) (out : Path) (dpi : Value) : Act Unit :=
  match v.form, v.view with
  | .bar, some view => Picture.bars view v.options out dpi
  | .scatter, some view => Picture.scatter view v.options out dpi
  | .blankChart, _ => throw .formless
  | .bar, none | .scatter, none => throw (.lacks "NoneType" "frame")
  | form, _ => throw (.lacks form.kindName "save_png")

end Visual

end CodecReport
