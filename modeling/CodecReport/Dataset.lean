import CodecReport.Value.Json

/-!
# Datasets

A document is an object that names datasets. A dataset says how large its input is and lists one
measurement for each plugin and codec. `Document.ofValue` admits exactly the values of this layout and
names the first thing that departs from it; the notice of that is what a report says about it.
-/

namespace CodecReport

/-- What a report says about a failure: a message, wording for the reader of the page when it differs, and the
circumstances, which only the log shows. -/
structure Notice where
  message : String
  userMessage : Option String := none
  context : Entries Value := []

namespace Notice

def forUser (n : Notice) : String :=
  n.userMessage.getD n.message

def logLine (n : Notice) : String :=
  if n.context.isEmpty then n.message else n.message ++ ": " ++ (Value.map n.context).repr

end Notice

/-- One measurement: sizes in bytes, times in seconds. Wall-clock times may be missing. -/
structure Measurement where
  plugin : String
  codec : String
  size : Double
  compressCpu : Double
  decompressCpu : Double
  compressWall : Option Double
  decompressWall : Option Double
  deriving DecidableEq

structure Dataset where
  name : String
  uncompressedSize : Double
  records : List Measurement
  deriving DecidableEq

/-- The datasets of a document by name, in document order. -/
abbrev Document := Entries Dataset

inductive Site
  | dataset (name : String)
  | record (name : String) (index : Nat)
  deriving DecidableEq, Repr

inductive LayoutFault
  | notObject
  | missingSize (name : String)
  | dataNotList (name : String)
  | recordNotObject (site : Site)
  | notText (site : Site) (key : String) (found : Value)
  | notNumber (site : Site) (key : String) (found : Value)
  | outOfRange (site : Site) (key : String)

namespace Site

def label : Site → String
  | .dataset name => "dataset '" ++ name ++ "'"
  | .record name index => "dataset '" ++ name ++ "' record " ++ toString index

end Site

def sizeKey : String := "uncompressed-size"

def dataKey : String := "data"

namespace LayoutFault

def message : LayoutFault → String
  | .notObject => "benchmark document must be a JSON object keyed by dataset name"
  | .missingSize name =>
    (Site.dataset name).label ++ ": missing '" ++ sizeKey ++ "'; only the \x7b'" ++ sizeKey
      ++ "': n, 'data': [...]\x7d layout is supported"
  | .dataNotList name => (Site.dataset name).label ++ ": 'data' must be a list"
  | .recordNotObject site => site.label ++ ": record must be an object"
  | .notText site key found =>
    site.label ++ ": field '" ++ key ++ "' must be a string, got " ++ found.repr
  | .notNumber site key found =>
    site.label ++ ": field '" ++ key ++ "' must be a number, got " ++ found.repr
  | .outOfRange site key => site.label ++ ": field '" ++ key ++ "' is out of range"

def notice (f : LayoutFault) : Notice :=
  match f with
  | .missingSize name | .dataNotList name =>
    { message := f.message, context := [("dataset", .text name)] }
  | f => { message := f.message }

end LayoutFault

namespace Document

def textField (site : Site) (fields : Entries Value) (key : String) : Except LayoutFault String :=
  match fields.get? key with
  | some (.text s) => .ok s
  | found => .error (.notText site key (found.getD .null))

/-- A value that has to be a number with a finite nearest double; infinities and what is not a number are
kept. -/
def number (site : Site) (key : String) : Value → Except LayoutFault Double
  | .float d => .ok d
  | .int i => (Double.ofInt? i).elim (.error (.outOfRange site key)) .ok
  | found => .error (.notNumber site key found)

def numberField (site : Site) (fields : Entries Value) (key : String) : Except LayoutFault Double :=
  number site key ((fields.get? key).getD .null)

/-- A field that is a number, null or absent. -/
def numberField? (site : Site) (fields : Entries Value) (key : String) :
    Except LayoutFault (Option Double) :=
  match fields.get? key with
  | none | some .null => .ok none
  | some found => some <$> number site key found

def measurement (site : Site) : Value → Except LayoutFault Measurement
  | .map fields => do
    let plugin ← textField site fields "plugin"
    let codec ← textField site fields "codec"
    let size ← numberField site fields "size"
    let compressCpu ← numberField site fields "compress_cpu"
    let decompressCpu ← numberField site fields "decompress_cpu"
    let compressWall ← numberField? site fields "compress_wall"
    let decompressWall ← numberField? site fields "decompress_wall"
    return { plugin, codec, size, compressCpu, decompressCpu, compressWall, decompressWall }
  | _ => .error (.recordNotObject site)

/-- The measurements of a dataset, counted from `index`. -/
def measurements (name : String) : (index : Nat) → List Value → Except LayoutFault (List Measurement)
  | _, [] => .ok []
  | index, item :: rest => do
    let first ← measurement (.record name index) item
    return first :: (← measurements name (index + 1) rest)

def dataset (name : String) : Value → Except LayoutFault Dataset
  | .map fields =>
    match Entries.get? fields sizeKey with
    | none => .error (.missingSize name)
    | some size => do
      let uncompressedSize ← number (.dataset name) sizeKey size
      match Entries.get? fields dataKey with
      | some (.list items) =>
        return { name, uncompressedSize, records := ← measurements name 0 items }
      | _ => throw (.dataNotList name)
  | _ => .error (.missingSize name)

def datasets : Entries Value → Except LayoutFault Document
  | [] => .ok []
  | (name, value) :: rest => do
    let first ← dataset name value
    return (name, first) :: (← datasets rest)

def ofValue : Value → Except LayoutFault Document
  | .map entries => datasets entries
  | _ => .error .notObject

end Document

end CodecReport
