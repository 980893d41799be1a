import CodecReport.Calendar
import CodecReport.Number.Numeral
import CodecReport.Text.Quoted
import CodecReport.Value.Entries

/-!
# Values

The values of documents, configurations and chart options, and how they are shown in text: `Value.shown`
shows a text as it is, `Value.repr` shows it between quotes, as every text inside a list or mapping is. A
document holds texts, numbers, truth values, lists and mappings from texts; the other kinds stand in
configurations only.
-/

namespace CodecReport

inductive Value
  | null
  | bool (b : Bool)
  | int (i : Int)
  | float (d : Double)
  | text (s : String)
  | bytes (content : List Nat)
  | date (d : Date)
  | moment (m : Moment)
  | list (items : List Value)
  | pair (first second : Value)
  | set (members : List Value)
  | map (entries : List (String × Value))
  /-- A mapping of which some keys are no texts. -/
  | keyed (entries : List (Value × Value))
  /-- A collection that the value stands in itself. -/
  | again (isList : Bool)

instance : Inhabited Value := ⟨.null⟩

namespace Value

def kindName : Value → String
  | .null => "NoneType"
  | .bool _ => "bool"
  | .int _ => "int"
  | .float _ => "float"
  | .text _ => "str"
  | .bytes _ => "bytes"
  | .date _ => "datetime.date"
  | .moment _ => "datetime.datetime"
  | .list _ | .again true => "list"
  | .pair .. => "tuple"
  | .set _ => "set"
  | .map _ | .keyed _ | .again false => "dict"

/-- The part of a kind's name behind its last point. -/
def shortKindName (v : Value) : String :=
  match v with
  | .date _ => "date"
  | .moment _ => "datetime"
  | v => v.kindName

def setRepr (members : List String) : String :=
  if members.isEmpty then "set()" else "\x7b" ++ ", ".intercalate members ++ "\x7d"

mutual

def repr : Value → String
  | .null => "None"
  | .bool true => "True"
  | .bool false => "False"
  | .int i => toString i
  | .float d => d.text
  | .text s => Text.quoted s
  | .bytes content => Text.quotedBytes content
  | .date d => d.repr
  | .moment m => m.repr
  | .list items => "[" ++ ", ".intercalate (reprItems items) ++ "]"
  | .pair first second => "(" ++ repr first ++ ", " ++ repr second ++ ")"
  | .set members => setRepr (reprItems members)
  | .map entries => "\x7b" ++ ", ".intercalate (reprEntries entries) ++ "\x7d"
  | .keyed entries => "\x7b" ++ ", ".intercalate (reprPairs entries) ++ "\x7d"
  | .again true => "[...]"
  | .again false => "\x7b...\x7d"

def reprItems : List Value → List String
  | [] => []
  | v :: rest => repr v :: reprItems rest

def reprEntries : List (String × Value) → List String
  | [] => []
  | (key, v) :: rest => (Text.quoted key ++ ": " ++ repr v) :: reprEntries rest

def reprPairs : List (Value × Value) → List String
  | [] => []
  | (key, v) :: rest => (repr key ++ ": " ++ repr v) :: reprPairs rest

end

/-- A value as text: a text is itself, and so is what the calendar tells. -/
def shown : Value → String
  | .text s => s
  | .date d => d.text
  | .moment m => m.text
  | v => v.repr

/-- Whether a value counts as given: null, false, zero and whatever is empty do not. -/
def truthy : Value → Bool
  | .null => false
  | .bool b => b
  | .int i => i != 0
  | .float d => !d.isZero
  | .text s => s != ""
  | .bytes content => !content.isEmpty
  | .date _ | .moment _ | .pair .. | .again _ => true
  | .list items | .set items => !items.isEmpty
  | .map entries => !entries.isEmpty
  | .keyed entries => !entries.isEmpty

/-- Whether a value is the number zero; false counts as zero. -/
def isZero : Value → Bool
  | .bool b => !b
  | .int i => i == 0
  | .float d => d.isZero
  | _ => false

@[simp] theorem shown_text (s : String) : shown (.text s) = s := rfl

end Value

end CodecReport
