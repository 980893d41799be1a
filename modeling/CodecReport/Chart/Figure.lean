import CodecReport.Text.Quoted
import CodecReport.Value.Basic

/-!
# Interactive figures

A figure is its traces and its layout. Its text is JSON with the keys of every object in order; a
coordinate that is not finite is null, and what a figure leaves open is absent.
-/

namespace CodecReport

inductive Trace
  /-- Horizontal bars: `lengths` at the positions from zero on. -/
  | bars (name : String) (lengths : List (Option Double)) (selected : List Nat)
  /-- Points, each with a text if there are texts. -/
  | points (name hover : String) (x y : List (Option Double)) (text : Option (List String))
      (selected : List Nat)

structure Axis where
  title : Option String := none
  fromZero : Bool := false
  deriving DecidableEq, Repr

/-- A figure. `categories` are the names of the bars of a bar chart. -/
structure Figure where
  traces : List Trace
  title : String
  legend : Bool
  height : Option Int
  horizontal : Axis
  vertical : Axis
  categories : Option (List String) := none

namespace Figure

def escapeChar (c : Char) : List Char :=
  if c == '"' || c == '\\' then ['\\', c]
  else if c == '\n' then ['\\', 'n']
  else if c == '\r' then ['\\', 'r']
  else if c == '\t' then ['\\', 't']
  else if c == '\x08' then ['\\', 'b']
  else if c == '\x0c' then ['\\', 'f']
  else if c.toNat < 0x20 then '\\' :: 'u' :: Text.hexDigits 4 c.toNat
  else [c]

def string (s : String) : String :=
  String.ofList ('"' :: s.toList.flatMap escapeChar ++ ['"'])

def array (items : List String) : String :=
  "[" ++ ",".intercalate items ++ "]"

/-- An object of the given entries, of which some may be left open. -/
def object (entries : List (String × Option String)) : String :=
  "\x7b" ++ ",".intercalate (entries.filterMap fun (key, value) =>
    value.map fun v => string key ++ ":" ++ v) ++ "\x7d"

def bool (b : Bool) : String := if b then "true" else "false"

def coordinate : Option Double → String
  | some d => string d.text
  | none => "null"

def coordinates (values : List (Option Double)) : String := array (values.map coordinate)

def positions (values : List Nat) : String := array (values.map toString)

def strings (values : List String) : String := array (values.map string)

/-- The selected rows, left open when there are none. -/
def selection (rows : List Nat) : Option String :=
  if rows.isEmpty then none else some (positions rows)

def traceEntries : Trace → List (String × Option String)
  | .bars name lengths selected =>
    [("name", string name), ("orientation", string "h"), ("selectedpoints", selection selected),
      ("type", string "bar"), ("x", coordinates lengths), ("y", positions (List.range lengths.length))]
  | .points name hover x y text selected =>
    [("hovertemplate", string hover), ("mode", string "markers"), ("name", string name),
      ("selectedpoints", selection selected), ("text", text.map strings), ("type", string "scatter"),
      ("x", coordinates x), ("y", coordinates y)]

def traceText (trace : Trace) : String := object (traceEntries trace)

def titleText (title : String) : String := object [("text", string title)]

/-- What is fixed about an axis. Categories stand at the vertical axis, the first one on top. -/
def axisEntries (axis : Axis) (categories : Option (List String)) : List (String × Option String) :=
  [("autorange", categories.map fun _ => string "reversed"),
    ("rangemode", if axis.fromZero then some (string "tozero") else none),
    ("tickmode", categories.map fun _ => string "array"),
    ("ticktext", categories.map strings),
    ("tickvals", categories.map fun names => positions (List.range names.length)),
    ("title", axis.title.map titleText)]

/-- An axis, left open when nothing is fixed about it. -/
def axisText (axis : Axis) (categories : Option (List String)) : Option String :=
  if axis.title.isNone && !axis.fromZero && categories.isNone then none
  else some (object (axisEntries axis categories))

def margins : String :=
  object [("b", "50"), ("l", "90"), ("r", "30"), ("t", "50")]

def layoutEntries (f : Figure) : List (String × Option String) :=
  [("barmode", f.categories.map fun _ => string "group"),
    ("clickmode", string "event+select"),
    ("height", f.height.map toString),
    ("margin", margins),
    ("showlegend", bool f.legend),
    ("title", titleText f.title),
    ("xaxis", axisText f.horizontal none),
    ("yaxis", axisText f.vertical f.categories)]

def layoutText (f : Figure) : String := object f.layoutEntries

/-- What the page may do with a figure. -/
def config : String :=
  object [("displayModeBar", bool false), ("responsive", bool false)]

def entries (f : Figure) : List (String × Option String) :=
  [("config", config), ("data", array (f.traces.map traceText)), ("layout", f.layoutText)]

def text (f : Figure) : String := object f.entries

def html (f : Figure) (container : String) : String :=
  "<div id=\"" ++ container ++ "\" class=\"plotly-graph-div\">" ++ f.text ++ "</div>"

end Figure

end CodecReport
