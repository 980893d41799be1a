import CodecReport.Fault
import CodecReport.Table.Basic

/-!
# Views

A view picks columns of a table by position and gives each a role: data is shown, a tooltip only explains.
The frame of a view holds the picked columns; a tooltip's key carries a suffix, so that a column may appear
in both roles. Every dataset is shown in the same six views.
-/

namespace CodecReport

inductive Role
  | data
  | tooltip
  deriving DecidableEq, Repr

/-- A column of a table by position, counted from the end when negative. -/
structure ColumnRef where
  column : Int
  role : Role := .data
  deriving DecidableEq, Repr

/-- The form that a view is drawn in. The blank forms have nothing to draw. -/
inductive Form
  | table
  | bar
  | scatter
  | blank
  | blankChart
  deriving DecidableEq, Repr

namespace Form

def name : Form → String
  | .table => "table"
  | .bar => "bar"
  | .scatter => "scatter"
  | .blank | .blankChart => "base"

def kindName : Form → String
  | .table => "TableVisualization"
  | .bar => "BarChartVisualization"
  | .scatter => "ScatterChartVisualization"
  | .blank => "Visualization"
  | .blankChart => "_ChartVisualization"

def isChart : Form → Bool
  | .bar | .scatter | .blankChart => true
  | .table | .blank => false

end Form

/-- A selection of a table's columns, to be drawn in some form. -/
structure View where
  id : String
  form : Form
  title : String
  table : Table
  refs : List ColumnRef
  options : Entries Value := []

def tooltipSuffix : String := "__tooltip"

/-- The member of a list at a position, counted from the end when negative. -/
def atPosition? {α : Type} (items : List α) (position : Int) : Option α :=
  let index := if position < 0 then position + items.length else position
  if index < 0 then none else items[index.toNat]?

namespace ColumnRef

def resolve (t : Table) (ref : ColumnRef) : Except Fault Column :=
  match atPosition? t.columns ref.column with
  | some column => .ok column
  | none => .error .noSuchColumn

def key (ref : ColumnRef) (column : Column) : String :=
  match ref.role with
  | .data => column.name
  | .tooltip => column.name ++ tooltipSuffix

end ColumnRef

/-- Whether a cell is a gap in a column: null, or what is not a number. -/
def isGap : Value → Bool
  | .null | .float .nan => true
  | _ => false

/-- Whether the cells of a column are texts and gaps, with one text at least. -/
def isTextColumn (cells : List Value) : Bool :=
  let filled := cells.filter (!isGap ·)
  !filled.isEmpty && filled.all fun
    | .text _ => true
    | _ => false

/-- The cells of a column as a view has them: the gaps of a column of texts are no numbers. -/
def fillGaps (cells : List Value) : List Value :=
  if isTextColumn cells then cells.map fun c => if isGap c then .float .nan else c else cells

namespace View

def resolveAll (v : View) (refs : List ColumnRef) : Except Fault (List Column) :=
  refs.mapM (·.resolve v.table)

def columns (v : View) : Except Fault (List Column) := v.resolveAll v.refs

def roles (v : View) : List Role := v.refs.map (·.role)

def dataColumns (v : View) : Except Fault (List Column) :=
  v.resolveAll (v.refs.filter (·.role == .data))

def tooltipColumns (v : View) : Except Fault (List Column) :=
  v.resolveAll (v.refs.filter (·.role == .tooltip))

/-- The picked columns with their cells; of two references with one key the first gives the position. -/
def frame (v : View) : Except Fault Frame := do
  let picked ← v.refs.mapM fun ref => do
    let column ← ref.resolve v.table
    return (ref.key column, fillGaps ((v.table.frame.get? column.name).getD []))
  return Entries.ofList picked

end View

/-- What is fixed about a view before there is a table. -/
structure ViewPlan where
  id : String
  form : Form
  title : String
  refs : List ColumnRef
  options : Entries Value := []

namespace ViewPlan

def data (columns : List Int) : List ColumnRef :=
  columns.map fun column => { column }

def codecTooltip : ColumnRef := { column := 1, role := .tooltip }

def axis (title : String) : Value :=
  .map [("title", .text title)]

/-- The options of an axis with a title that starts at zero. -/
def axisFromZero (title : String) : Value :=
  .map [("title", .text title), ("min_value", .int 0)]

def standard : List ViewPlan :=
  [{ id := "table", form := .table, title := "Results", refs := data [0, 1, 2, 3, 4] },
   { id := "ratio", form := .bar, title := "Compression Ratio", refs := data [1, 2]
     options := [("legend", .bool false), ("v_axis", axis "Codecs")] },
   { id := "speed", form := .bar, title := "Speed", refs := data [1, 3, 4]
     options := [("legend", .bool true), ("v_axis", axis "Codecs"), ("h_axis", axis "Speed (KB/s)")] },
   { id := "ratio_vs_compress_speed", form := .scatter
     title := "Compression Ratio vs. Compression Speed", refs := data [3, 2] ++ [codecTooltip]
     options := [("legend", .bool false), ("v_axis", axisFromZero "Ratio"),
       ("h_axis", axisFromZero "Speed (KB/s)")] },
   { id := "ratio_vs_decompress_speed", form := .scatter
     title := "Compression Ratio vs. Decompression Speed", refs := data [4, 2] ++ [codecTooltip]
     options := [("legend", .bool false), ("v_axis", axisFromZero "Ratio"),
       ("h_axis", axisFromZero "Decompression Speed (KB/s)")] },
   { id := "speed_compare", form := .scatter
     title := "Compression Speed vs. Decompression Speed", refs := data [3, 4] ++ [codecTooltip]
     options := [("legend", .bool false), ("h_axis", axisFromZero "Compression Speed (KB/s)"),
       ("v_axis", axisFromZero "Decompression Speed (KB/s)")] }]

def on (t : Table) (p : ViewPlan) : View where
  id := p.id
  form := p.form
  title := p.title
  table := t
  refs := p.refs
  options := p.options

end ViewPlan

def Table.views (t : Table) : List View :=
  ViewPlan.standard.map (·.on t)

end CodecReport
