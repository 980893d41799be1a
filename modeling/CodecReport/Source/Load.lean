import CodecReport.Session
import CodecReport.Settings
import CodecReport.Source.Basic

/-!
# Loading

A document is fetched once, over the network or from disk, and read. Failures to fetch are faults of
loading that name the location.
-/

namespace CodecReport

/-- A text stands for its bytes in UTF-8. -/
instance coeStringBytes : Coe String ByteArray := ⟨String.toUTF8⟩

inductive Exchange
  /-- An answer with its status, the reason given with it and its body. -/
  | answered (status : Int) (reason : Option String) (body : ByteArray)
  | timedOut
  | failed (message : String)
  /-- Something that is no failure of the request stops it. -/
  | interrupted (kind message : String)

namespace Source

def defaultTimeout : Double := Double.ofInt 10

def timeout (config : Value) : Except Fault Double := do
  let input ← config.orEmpty.configSection "input"
  ((← input.entryD "timeout_s" (.float defaultTimeout)).toDouble).mapError .conversion

/-- What is wrong with an answer of this status, if anything. -/
def statusFault? (location : String) (status : Int) (reason : Option String) : Option String :=
  let told (side : String) : String :=
    toString status ++ " " ++ side ++ " Error: " ++ reason.getD "None" ++ " for url: " ++ location
  if 400 ≤ status ∧ status < 500 then some (told "Client")
  else if 500 ≤ status ∧ status < 600 then some (told "Server")
  else none

def received (location : String) : Exchange → Except Fault (List Nat)
  | .answered status reason body =>
    match statusFault? location status reason with
    | some message => .error (.load (.fetchFailed location message))
    | none => .ok (Text.bytesOf body)
  | .timedOut => .error (.load (.timedOut location))
  | .failed message => .error (.load (.fetchFailed location message))
  | .interrupted kind message => .error (.foreign kind message)

/-- The bytes of a file. A path that cannot stand for any file is a fault of its own. -/
def readFile (disk : Disk) (location : String) : Except Fault (List Nat) :=
  match disk.read (Path.ofText location) with
  | .ok content => .ok (Text.bytesOf content)
  | .error .nullInPath => .error (.disk .nullInPath)
  | .error fault => .error (.load (.readFailed location fault.message))

/-- Fetches what a source holds; `exchange` is how a request would end. -/
def fetch (exchange : Exchange) (config : Value) (text : String) : Act (List Nat) := do
  let source ← Act.ofResult (detect (← get).disk text)
  match source.kind with
  | .remote =>
    Act.request source.location (← Act.ofResult (timeout config))
    Act.ofResult (received source.location exchange)
  | .file => Act.ofResult (readFile (← get).disk source.location)
  | .unknown => throw (.load (.notFound source.location))

def loadLogName : String := "squash_BenchmarkReporter.loaders.json_loader"

def load (exchange : Exchange) (config : Value) (text : String) : Act Document := do
  let bytes ← fetch exchange config text
  let document ← Act.ofResult (Document.read (.bytes bytes))
  Act.log .info loadLogName
    ("loaded " ++ toString document.length ++ " dataset(s) from " ++ text)
  return document

end Source

end CodecReport
