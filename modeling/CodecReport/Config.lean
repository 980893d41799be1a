import CodecReport.Output
import CodecReport.Yaml.Document

/-!
# Configurations

Where the configuration of a run comes from, and what the command line changes in it. A configuration that
holds nothing is an empty mapping; any other value but a mapping is refused.
-/

namespace CodecReport

namespace Config

def defaultSource : String := "data.json"

def defaultRoot : String := "out"

def standard : Web := Web.ofSections
  [("input", [("source", .text defaultSource), ("timeout_s", .int 10)]),
   ("output", [("root", .text defaultRoot), ("page_name", .text defaultPageName)]),
   ("page", [
     ("title", .text "Squash Compression Benchmark"),
     ("panel_width", .int 960),
     ("plotly_js", .text "cdn"),
     ("query", .text ""),
     ("highlight", .list [])]),
   ("reports", [("format", .text "csv"), ("mat_variable", .text "report")]),
   ("plots", [("static_png", .bool false), ("dpi", .int 160)]),
   ("logging", [("verbose", .bool true), ("level", .text "INFO")])]

/-- The configuration that a text writes; `path` is where it was found. -/
def ofText (path text : String) : Except Fault Web :=
  match Yaml.read text with
  | .error .malformed => .error (.config (.malformed path))
  | .error fault => .error (.setting fault)
  | .ok web =>
    match web.top with
    | .value .null => .ok Web.empty
    | _ => if web.isMap then .ok web else .error (.config (.notMapping path))

/-- The configuration that bytes write, as a text in UTF-8. Bytes that are no such text are a fault of their own. -/
def ofBytes (path : String) (content : ByteArray) : Except Fault Web := do
  let bytes := Text.bytesOf content
  let cs ← (Text.decodeUtf8 false bytes.length 0 bytes).mapError fun fault =>
    .foreign "UnicodeDecodeError" fault.message
  ofText path (String.ofList cs)

def ofFile (disk : Disk) (p : Path) : Except Fault Web :=
  match disk.read p with
  | .ok content => ofBytes p.text content
  | .error .nullInPath => .error (.disk .nullInPath)
  | .error fault => .error (.config (.unreadable p.text fault))

def ofInvocation (disk : Disk) (inv : Invocation) : Except Fault Web :=
  match inv.config with
  | some p => ofFile disk p
  | none => .ok standard

/-- A setting changed in a section, if there is anything to change it to. -/
def change (config : Web) (place : Link) (key : String) : Option String → Except Fault Web
  | none => .ok config
  | some text => config.put place key (.value (.text text))

/-- The configuration with what an invocation changes in it. An empty source changes nothing. -/
def adjust (config : Web) (inv : Invocation) : Except Fault Web := do
  let (input, config) ← config.ownSection "input"
  let (output, config) ← config.ownSection "output"
  let config ← change config input "source" (inv.source.filter (· ≠ ""))
  change config output "root" (inv.out.map Path.text)

/-- Whether a part of the configuration is never told as a whole: the configuration itself, its sections, and
the list of what is highlighted. -/
def isOnlyLookedInto (path : List String) : Bool :=
  path.length < 2 || path == ["page", "highlight"]

def value (config : Web) : Value :=
  config.unfold isOnlyLookedInto

end Config

end CodecReport
