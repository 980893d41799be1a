import CodecReport.Chart.Series
import CodecReport.Session

/-!
# Pictures of charts

A chart can also be saved as a picture, drawn stroke by stroke from what its figure shows. In a bar chart a
missing length is a bar of length zero; in a scatter chart a point with a missing coordinate is left out.
-/

namespace CodecReport

namespace Picture

def number (d : Double) : Value := .float d

/-- The double that a numeral of whole tenths or hundredths writes. -/
def decimal (coefficient : Nat) (exponent : Int) : Double :=
  Decimal.toDouble ⟨false, coefficient, exponent⟩

/-- The height of a picture of bars in inches: a quarter for each bar, but four at least. -/
def barsHeight (categories series : Nat) : Double :=
  (decimal 40 (-1)).max (decimal 25 (-2) * Double.ofInt categories * Double.ofInt (max 1 series))

/-- The width of a bar when several series share the place of a category. -/
def barWidth (series : Nat) : Double :=
  decimal 8 (-1) / Double.ofInt (max 1 series)

/-- The place of the bar of series `k` at position `p`. -/
def barPlace (width : Double) (k p : Nat) : Double :=
  Double.ofInt p + Double.ofInt k * width

def tickPlace (width : Double) (series p : Nat) : Double :=
  Double.ofInt p + width * Double.ofInt ((series : Int) - 1) / Double.ofInt 2

def axisLabel (axis : Value) (default : String) : Except Fault Value := do
  return (← axis.entry? "title").getD (.text default)

/-- Where a picture is kept, and how fine it is. -/
def finish (out : Path) (dpi : Value) : Act Unit := do
  Act.stroke { name := "tight_layout" }
  Act.makeFolders out.parent
  Act.stroke { name := "savefig", args := [.text out.text], named := [("dpi", dpi)] }
  Act.stroke { name := "close" }

def drawSeries (v : View) (width : Double) (k : Nat) (column : Column) : Act Unit := do
  let lengths := (← Act.ofResult (v.lengths column)).map (·.getD Double.zero)
  let places := (List.range (← Act.ofResult v.categories).length).map (barPlace width k)
  Act.stroke {
    name := "barh", args := [.list (places.map number), .list (lengths.map number)]
    named := [("height", number width), ("label", .text column.label)] }

def bars (v : View) (options : ChartOptions) (out : Path) (dpi : Value) : Act Unit := do
  let categories ← Act.ofResult v.categories
  let series ← Act.ofResult v.seriesColumns
  Act.startPicture {
    name := "figure"
    named := [("figsize", .list [.int 11, number (barsHeight categories.length series.length)])] }
  let width := barWidth series.length
  series.zipIdx.forM fun (column, k) => drawSeries v width k column
  let ticks := (List.range categories.length).map (tickPlace width series.length)
  Act.stroke {
    name := "yticks", args := [.list (ticks.map number), .list (categories.map .text)]
    named := [("fontsize", .int 7)] }
  Act.stroke { name := "gca.invert_yaxis" }
  Act.stroke { name := "xlabel", args := [← Act.ofResult (axisLabel options.horizontal "")] }
  Act.stroke { name := "ylabel", args := [← Act.ofResult (axisLabel options.vertical "")] }
  Act.stroke { name := "title", args := [.text v.title] }
  Act.stroke {
    name := "grid", args := [.bool true]
    named := [("axis", .text "x"), ("alpha", number (decimal 3 (-1)))] }
  if options.legend then
    Act.stroke { name := "legend", named := [("fontsize", .int 8)] }
  finish out dpi

/-- The points of which both coordinates are there, each with its text. -/
def shownPoints (p : View.Points) : List (Double × Double × String) :=
  let texts := match p.text with
    | some texts => texts
    | none => p.x.map fun _ => ""
  (p.x.zip (p.y.zip texts)).filterMap fun (x, y, text) =>
    match x, y with
    | some x, some y => some (x, y, text)
    | _, _ => none

def annotate (point : Double × Double × String) : Act Unit :=
  let (x, y, text) := point
  Act.stroke {
    name := "annotate", args := [.text text, .list [number x, number y]]
    named := [("fontsize", .int 6), ("xytext", .list [.int 4, .int 2]),
      ("textcoords", .text "offset points")] }

def scatter (v : View) (options : ChartOptions) (out : Path) (dpi : Value) : Act Unit := do
  let p ← Act.ofResult v.points
  let points := shownPoints p
  Act.startPicture { name := "figure", named := [("figsize", .list [.int 8, .int 5])] }
  Act.stroke {
    name := "scatter"
    args := [.list (points.map fun (x, _) => number x), .list (points.map fun (_, y, _) => number y)] }
  points.forM annotate
  Act.stroke {
    name := "xlabel", args := [← Act.ofResult (axisLabel options.horizontal p.xColumn.label)] }
  Act.stroke {
    name := "ylabel", args := [← Act.ofResult (axisLabel options.vertical p.yColumn.label)] }
  if ← Act.ofResult (ChartOptions.fromZero options.horizontal) then
    Act.stroke { name := "xlim", named := [("left", .int 0)] }
  if ← Act.ofResult (ChartOptions.fromZero options.vertical) then
    Act.stroke { name := "ylim", named := [("bottom", .int 0)] }
  Act.stroke { name := "title", args := [.text v.title] }
  Act.stroke { name := "grid", args := [.bool true], named := [("alpha", number (decimal 3 (-1)))] }
  finish out dpi

end Picture

end CodecReport
