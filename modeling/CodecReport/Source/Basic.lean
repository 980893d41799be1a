import CodecReport.Fault

/-!
# Kinds of sources

A source is an address to fetch, a file that exists, or neither. A folder stands for the document inside
it. The kind is that of the location that is finally read, judged by its own text.
-/

namespace CodecReport

inductive SourceKind
  | remote
  | file
  | unknown
  deriving DecidableEq, Repr

namespace SourceKind

def name : SourceKind → String
  | .remote => "url"
  | .file => "file"
  | .unknown => "unknown"

end SourceKind

structure Source where
  location : String
  kind : SourceKind
  deriving DecidableEq, Repr

namespace Source

def documentName : String := "data.json"

def kindOf (disk : Disk) (text : String) : Except Fault SourceKind := do
  if ← (Address.isRemote text).mapError .address then return .remote
  match ← (disk.probe (Path.ofText text)).mapError .disk with
  | some (.file _) => return .file
  | _ => return .unknown

/-- The path that a source on disk stands for, as it is told: resolved when something stands there. -/
def pathText (disk : Disk) (text : String) : Except DiskFault String := do
  let path := Path.ofText text
  let path ← match ← disk.probe path with
    | some .folder => pure (path.child documentName)
    | _ => pure path
  if (← disk.probe path).isSome then return (disk.resolve path).text
  else return path.text

def detect (disk : Disk) (text : String) : Except Fault Source := do
  let remote ← (Address.isRemote text).mapError .address
  let location ← if remote then pure text else (pathText disk text).mapError .disk
  return { location, kind := ← kindOf disk location }

end Source

end CodecReport
