import CodecReport.Chart.Figure
import CodecReport.Settings
import CodecReport.Table.View
import CodecReport.Value.Conversion

/-!
# Charts of a view

What a chart shows of a view: a bar chart the first column as categories and a series for every column of
data but the first, a scatter chart the first two columns of data as coordinates and the first tooltip as
text. The interactive figure and the picture are both made of these. Options fix the axes, the legend and
the height of a figure.
-/

namespace CodecReport

/-- The coordinate of a cell, none when it is not finite. A cell that reads as no number is a fault. -/
def Value.coordinate (cell : Value) : Except Fault (Option Double) :=
  match cell.toDouble with
  | .ok d => .ok (if d.isFinite then some d else none)
  | .error .integerTooLarge => .error (.conversion .integerTooLarge)
  | .error _ => .error (.nonNumericCell cell)

def coordinatesOf (cells : List Value) : Except Fault (List (Option Double)) :=
  cells.mapM Value.coordinate

abbrev ChartOptions := Entries Value

namespace ChartOptions

def axis (options : ChartOptions) (name : String) : Value :=
  (options.get? name).getD (.map [])

def horizontal (options : ChartOptions) : Value := axis options "h_axis"

def vertical (options : ChartOptions) : Value := axis options "v_axis"

/-- Whether a legend is shown; it is unless the options say otherwise. -/
def legend (options : ChartOptions) : Bool :=
  ((options.get? "legend").getD (.bool true)).truthy

def leastHeight : Int := 10

/-- The height of a figure, open when the options give none or zero. -/
def height (options : ChartOptions) : Except Fault (Option Int) :=
  match options.get? "height" with
  | none => .ok none
  | some given =>
    if !given.truthy then .ok none
    else match given.toInt with
      | .error fault => .error (.conversion fault)
      | .ok h => if h < leastHeight then .error .badFigure else .ok (some h)

/-- The title of an axis: a text or a number, and none when it counts as not given. -/
def axisTitle (axis : Value) : Except Fault (Option String) := do
  match ← axis.entry? "title" with
  | none => return none
  | some title =>
    if !title.truthy then return none
    match title with
    | .list _ | .map _ => throw .badFigure
    | shown => return some shown.shown

def fromZero (axis : Value) : Except Fault Bool := do
  return ((← axis.entry? "min_value").map Value.isZero).getD false

end ChartOptions

namespace View

/-- The categories of a bar chart: the cells of the first column as text. -/
def categories (v : View) : Except Fault (List String) := do
  match ← v.frame with
  | [] => throw .noCategories
  | (_, cells) :: _ => return cells.map Value.shown

def seriesColumns (v : View) : Except Fault (List Column) := do
  return (← v.dataColumns).drop 1

def lengths (v : View) (column : Column) : Except Fault (List (Option Double)) := do
  coordinatesOf (((← v.frame).get? column.name).getD [])

structure Points where
  xColumn : Column
  yColumn : Column
  x : List (Option Double)
  y : List (Option Double)
  text : Option (List String)

def points (v : View) : Except Fault Points := do
  let frame ← v.frame
  match ← v.dataColumns with
  | xColumn :: yColumn :: _ =>
    let text := (frame.find? fun (key, _) => key.endsWith tooltipSuffix).map fun (_, cells) =>
      cells.map Value.shown
    let x ← coordinatesOf ((frame.get? xColumn.name).getD [])
    let y ← coordinatesOf ((frame.get? yColumn.name).getD [])
    return { xColumn, yColumn, x, y, text }
  | columns => throw (.axesMissing columns.length)

end View

def hoverTemplate (p : View.Points) : String :=
  (if p.text.isSome then "%\x7btext\x7d<br>" else "")
    ++ p.xColumn.label ++ ": %\x7bx\x7d<br>" ++ p.yColumn.label ++ ": %\x7by\x7d<extra></extra>"

namespace Figure

def withLayout (title : String) (options : ChartOptions) (traces : List Trace)
    (categories : Option (List String)) : Except Fault Figure := do
  let height ← options.height
  let horizontalTitle ← ChartOptions.axisTitle options.horizontal
  let verticalTitle ← ChartOptions.axisTitle options.vertical
  let horizontalZero ← ChartOptions.fromZero options.horizontal
  let verticalZero ← ChartOptions.fromZero options.vertical
  return {
    traces, title, legend := options.legend, height
    horizontal := ⟨horizontalTitle, horizontalZero⟩
    vertical := ⟨verticalTitle, verticalZero⟩
    categories }

def bars (v : View) (options : ChartOptions) (selected : List Nat) : Except Fault Figure := do
  let categories ← v.categories
  let traces ← (← v.seriesColumns).mapM fun column => do
    return Trace.bars column.label (← v.lengths column) selected
  withLayout v.title options traces (some categories)

def scatter (v : View) (options : ChartOptions) (selected : List Nat) : Except Fault Figure := do
  let p ← v.points
  withLayout v.title options
    [.points p.yColumn.label (hoverTemplate p) p.x p.y p.text selected] none

end Figure

end CodecReport
