import CodecReport.Table.Results
import CodecReport.Text.Digit

/-!
# Workbooks

The datasets of a document with their results tables, each under an id that serves as element id and as
folder name. A name becomes a label: every run of characters that may not stand there becomes one mark, and the marks
at the ends are dropped. The position in front keeps the ids apart when names give the same label.
-/

namespace CodecReport

namespace Text

/-- The text with every run of characters outside a class replaced by one mark; `inRun` tells whether the
character before was one of them. -/
def replaceRuns (keep : Char → Bool) (mark : Char) : (inRun : Bool) → List Char → List Char
  | _, [] => []
  | inRun, c :: rest =>
    if keep c then c :: replaceRuns keep mark false rest
    else if inRun then replaceRuns keep mark true rest
    else mark :: replaceRuns keep mark true rest

def isIdChar (c : Char) : Bool :=
  c.isAlphanum || c == '_' || c == '-'

/-- The characters of ids, and the point. -/
def isFileChar (c : Char) : Bool :=
  isIdChar c || c == '.'

/-- What a name is called in ids when none of its characters may stand there. -/
def namelessLabel : String := "dataset"

def slug (name : String) : String :=
  let cs := trimBy (· == '-') (replaceRuns isIdChar '-' false name.toList)
  if cs.isEmpty then namelessLabel else String.ofList cs

def fileLabelLimit : Nat := 120

def fileLabel (name : String) : String :=
  String.ofList ((trimBy (· == '_') (replaceRuns isFileChar '_' false name.toList)).take fileLabelLimit)

end Text

structure Sheet where
  dataset : Dataset
  table : Table
  id : String

/-- The sheets of a document by dataset name, in document order. -/
abbrev Workbook := Entries Sheet

namespace Workbook

def sheetId (index : Nat) (name : String) : String :=
  "ds" ++ toString index ++ "-" ++ Text.slug name

def sheet (index : Nat) (name : String) (dataset : Dataset) : Except Fault Sheet := do
  return { dataset, table := ← dataset.results, id := sheetId index name }

def ofDocument (document : Document) : Except Fault Workbook :=
  document.zipIdx.mapM fun ((name, dataset), index) => do
    return (name, ← sheet index name dataset)

def find (book : Workbook) (name : String) : Except Fault Sheet :=
  match Entries.get? book name with
  | some found => .ok found
  | none => .error (.unknownDataset name)

def names (book : Workbook) : List String := Entries.keys book

/-- The dataset that is shown from the start: the only one, if there is just one. -/
def initial? (book : Workbook) : Option String :=
  match book with
  | [(name, _)] => some name
  | _ => none

end Workbook

end CodecReport
