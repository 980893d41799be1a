import CodecReport.Dataset
import CodecReport.Disk.Basic
import CodecReport.Invocation
import CodecReport.Source.Address
import CodecReport.Yaml.Content

/-!
# Faults

Everything that can stop an operation, by cause. `Fault.message` words a fault; the faults that a report
tells about with a notice of their own are those of loading and of the configuration.
-/

namespace CodecReport

inductive LoadFault
  | timedOut (location : String)
  | fetchFailed (location reason : String)
  | readFailed (location reason : String)
  | notFound (location : String)
  | undecodable (fault : Text.EncodingFault)
  | malformed (cause : JsonCause) (place : TextPlace)
  | layout (fault : LayoutFault)

namespace LoadFault

def aboutSource (location message : String) : Notice :=
  { message, context := [("source", .text location)] }

def invalidJson (reason : String) : Notice :=
  { message := "benchmark document is not valid JSON: " ++ reason }

def notice : LoadFault → Notice
  | .timedOut location => aboutSource location ("timed out fetching " ++ location)
  | .fetchFailed location reason =>
    aboutSource location ("failed to fetch " ++ location ++ ": " ++ reason)
  | .readFailed location reason =>
    aboutSource location ("failed to read " ++ location ++ ": " ++ reason)
  | .notFound location => aboutSource location ("benchmark document not found: " ++ location)
  | .undecodable fault => invalidJson fault.message
  | .malformed cause place => invalidJson (JsonFault.malformed cause place).message
  | .layout fault => fault.notice

end LoadFault

inductive ConfigFault
  | unreadable (path : String) (fault : DiskFault)
  | malformed (path : String)
  | notMapping (path : String)
  | reportFormat (found : String)

namespace ConfigFault

def message : ConfigFault → String
  | .unreadable path fault => "cannot read config " ++ path ++ ": " ++ fault.message
  | .malformed path => "cannot read config " ++ path ++ ": " ++ Yaml.ReadFault.malformed.message
  | .notMapping path => "config " ++ path ++ " must be a mapping"
  | .reportFormat found =>
    "reports.format must be csv, mat, both or none (got " ++ Text.quoted found ++ ")"

def notice (f : ConfigFault) : Notice :=
  { message := f.message }

end ConfigFault

inductive Fault
  | load (fault : LoadFault)
  | config (fault : ConfigFault)
  /-- An integer of the document has more digits than are read. -/
  | integerDigits (count : Nat)
  /-- The document nests deeper than is read. -/
  | tooDeep (inObject : Bool)
  | conversion (fault : ConversionFault)
  /-- A setting of the configuration has no value. -/
  | setting (fault : Yaml.ReadFault)
  /-- An integer has more digits than are told. -/
  | integerTooLong
  /-- The hundredths of a number have more digits than are computed with. -/
  | precision
  | unknownDataset (name : String)
  /-- A view refers to a column that its table does not have. -/
  | noSuchColumn
  /-- A bar chart's view has no column at all. -/
  | noCategories
  /-- A scatter chart's view has fewer than two columns of data. -/
  | axesMissing (found : Nat)
  | nonNumericCell (cell : Value)
  /-- The figure has a property out of its range. -/
  | badFigure
  /-- The visualization has no form of its own. -/
  | formless
  /-- A value of this kind does not have this operation. -/
  | lacks (kind operation : String)
  | notIterable (kind : String)
  | notAssignable (kind : String)
  /-- A list takes positions where a key is given. -/
  | listKey
  | notPath (kind : String)
  /-- A path is told by text, not by bytes. -/
  | bytesPath
  | unnamedPath (path : String)
  | unknownLevel (name : String)
  | unknownFormat (found : Value)
  | address (fault : AddressFault)
  | disk (fault : DiskFault)
  /-- Something outside the library failed in its own words. -/
  | foreign (kind message : String)
  /-- The command line is not understood. -/
  | usage (fault : UsageFault)

/-- The status with which a run ends that cannot be done as it was asked for. -/
def usageStatus : Nat := 2

namespace Fault

def message : Fault → String
  | .load fault => fault.notice.message
  | .config fault => fault.message
  | .integerDigits count => ConversionFault.digitLimitMessage count
  | .tooDeep inObject => (JsonFault.tooDeep inObject).message
  | .conversion fault => fault.message
  | .setting fault => fault.message
  | .integerTooLong => ConversionFault.tooLongMessage
  | .precision => "[<class 'decimal.InvalidOperation'>]"
  | .unknownDataset name => Text.quoted name
  | .noSuchColumn => "tuple index out of range"
  | .noCategories => "single positional indexer is out-of-bounds"
  | .axesMissing found => "not enough values to unpack (expected 2, got " ++ toString found ++ ")"
  | .nonNumericCell cell => "non-numeric cell " ++ cell.repr
  | .badFigure => "<plotly>"
  | .formless => ""
  | .lacks kind operation => "'" ++ kind ++ "' object has no attribute '" ++ operation ++ "'"
  | .notIterable kind => "'" ++ kind ++ "' object is not iterable"
  | .notAssignable kind => "'" ++ kind ++ "' object does not support item assignment"
  | .listKey => "list indices must be integers or slices, not str"
  | .notPath kind => "expected str, bytes or os.PathLike object, not " ++ kind
  | .bytesPath =>
    "argument should be a str object or an os.PathLike object returning str, not <class 'bytes'>"
  | .unnamedPath path => "PosixPath(" ++ Text.quoted path ++ ") has an empty name"
  | .unknownLevel name => "Unknown level: " ++ Text.quoted name
  | .unknownFormat found => "unknown report format " ++ found.repr
  | .address fault => fault.message
  | .disk fault => fault.message
  | .foreign _ message => message
  | .usage _ => toString usageStatus

def notice? : Fault → Option Notice
  | .load fault => some fault.notice
  | .config fault => some fault.notice
  | _ => none

end Fault

namespace Document

/-- What the bytes or characters of a source hold. -/
inductive Raw
  | text (s : String)
  | bytes (bs : List Nat)

def ofJsonFault : JsonFault → Fault
  | .malformed cause place => .load (.malformed cause place)
  | .integerDigits count => .integerDigits count
  | .tooDeep inObject => .tooDeep inObject

def valueOf : Raw → Except Fault Value
  | .text s => (Json.decodeText s.toList).mapError ofJsonFault
  | .bytes bs => do
    let cs ← (Text.decodeBytes bs).mapError fun f => .load (.undecodable f)
    (Json.decode cs).mapError ofJsonFault

def read (raw : Raw) : Except Fault Document := do
  (ofValue (← valueOf raw)).mapError fun f => .load (.layout f)

end Document

end CodecReport
