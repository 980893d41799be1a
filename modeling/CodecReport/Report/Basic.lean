import CodecReport.Session
import CodecReport.Text.Split
import CodecReport.Workbook

/-!
# Reports

A report repeats the rows of a results table beside the measurements they were computed from, as
comma-separated values, as a matrix file or as both. A missing time and what is not a number are empty
fields in the one and not a number in the other. Rows of comma-separated values end with a line feed; a field with
a comma, a quote or a line feed stands between quotes, its own quotes doubled, and any other field as it is.
-/

namespace CodecReport

namespace Csv

def needsQuotes (field : List Char) : Bool :=
  field.any fun c => c == ',' || c == '"' || c == '\n'

def doubleQuotes (field : List Char) : List Char :=
  field.flatMap fun c => if c = '"' then ['"', '"'] else [c]

def writeField (field : List Char) : List Char :=
  if needsQuotes field then '"' :: doubleQuotes field ++ ['"'] else field

def writeRow (fields : List (List Char)) : List Char :=
  Text.joinWith ',' (fields.map writeField) ++ ['\n']

def write (rows : List (List String)) : String :=
  String.ofList (rows.flatMap fun row => writeRow (row.map String.toList))

end Csv

inductive ReportFormat
  | csv
  | mat
  | both
  deriving DecidableEq, Repr

namespace ReportFormat

def ofText? : String → Option ReportFormat
  | "csv" => some .csv
  | "mat" => some .mat
  | "both" => some .both
  | _ => none

def ofValue (v : Value) : Except Fault ReportFormat :=
  match v with
  | .text s => match ofText? s with
    | some format => .ok format
    | none => .error (.unknownFormat v)
  | v => .error (.unknownFormat v)

def hasCsv : ReportFormat → Bool
  | .csv | .both => true
  | .mat => false

def hasMatrix : ReportFormat → Bool
  | .mat | .both => true
  | .csv => false

end ReportFormat

inductive ReportCells
  | texts (cells : List String)
  | numbers (cells : List Double)

abbrev Report := Entries ReportCells

namespace Report

def tableCells (kind : CellKind) (cells : List Value) : ReportCells :=
  match kind with
  | .text => .texts (cells.map Value.shown)
  | .number => .numbers (cells.map fun
    | .float d => d
    | _ => .nan)

/-- The columns that a report takes over from a results table. -/
def projected (t : Table) : Report :=
  t.columns.map fun c => (c.name, tableCells c.kind ((t.frame.get? c.name).getD []))

def measured (records : List Measurement) : Report :=
  [("size", .numbers (records.map (·.size))),
   ("compress_cpu", .numbers (records.map (·.compressCpu))),
   ("decompress_cpu", .numbers (records.map (·.decompressCpu))),
   ("compress_wall", .numbers (records.map fun m => m.compressWall.getD .nan)),
   ("decompress_wall", .numbers (records.map fun m => m.decompressWall.getD .nan))]

def ofSheet (sheet : Sheet) : Report :=
  projected sheet.table ++ measured sheet.dataset.records

def columnNames : List String :=
  resultColumns.map (·.name) ++ (measured []).keys

/-- A number in a field; what is not a number leaves it empty. -/
def numberField : Double → String
  | .nan => ""
  | d => d.text

def fields : ReportCells → List String
  | .texts cells => cells
  | .numbers cells => cells.map numberField

/-- The fields of `count` rows, each in column order. -/
def rows (report : Report) (count : Nat) : List (List String) :=
  let columns := report.map fun (_, cells) => fields cells
  (List.range count).map fun i => columns.map fun column => column.getD i ""

def csv (report : Report) (count : Nat) : String :=
  Csv.write (report.keys :: report.rows count)

def matrixField : ReportCells → MatrixField
  | .texts cells => .texts cells
  | .numbers cells => .numbers cells

def matrixFields (report : Report) : Entries MatrixField :=
  report.map fun (name, cells) => (name, matrixField cells)

def pathWithEnding (base : Path) (ending : String) : Except Fault Path :=
  match base.withEnding? ending with
  | some path => .ok path
  | none => .error (.unnamedPath base.text)

def announce (sheet : Sheet) (path : Path) : Act Unit :=
  Act.print ("[OK] wrote report: " ++ sheet.dataset.name ++ " → " ++ path.text)

def writeCsv (sheet : Sheet) (base : Path) : Act Path := do
  let path ← Act.ofResult (pathWithEnding base ".csv")
  Act.makeFolders path.parent
  Act.writeFile path ((ofSheet sheet).csv sheet.dataset.records.length)
  announce sheet path
  return path

def writeMatrix (sheet : Sheet) (base : Path) (variableName : String) : Act Path := do
  let path ← Act.ofResult (pathWithEnding base ".mat")
  Act.makeFolders path.parent
  Act.writeMatrix { path, variableName, fields := (ofSheet sheet).matrixFields }
  announce sheet path
  return path

/-- Writes the files of a report. `base` is their common path without the endings. -/
def write (sheet : Sheet) (base : Path) (format : ReportFormat) (variableName : String) :
    Act (List Path) := do
  let csvPaths ← if format.hasCsv then do pure [← writeCsv sheet base] else pure []
  let matrixPaths ← if format.hasMatrix then do pure [← writeMatrix sheet base variableName] else pure []
  return csvPaths ++ matrixPaths

end Report

end CodecReport
