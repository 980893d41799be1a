import CodecReport.Config
import CodecReport.Source.Load
import CodecReport.Workbook

/-!
# Runs

A run reads its command line and configuration, loads the document and writes all output. It ends with a
status: zero, or one when there is no document and a page says so instead, or two when the configuration is
refused. Faults of any other kind stop it.
-/

namespace CodecReport

namespace Run

def levels : List (String × Nat) :=
  [("CRITICAL", Severity.critical.rank), ("FATAL", Severity.critical.rank), ("ERROR", Severity.error.rank),
   ("WARN", Severity.warning.rank), ("WARNING", Severity.warning.rank), ("INFO", Severity.info.rank),
   ("DEBUG", Severity.debug.rank), ("NOTSET", 0)]

structure Plan where
  config : Value
  source : String
  root : Path
  output : Value

def threshold (logging : Value) : Except Fault Nat := do
  let name := Text.upper (← logging.toldEntry "level" "INFO")
  match levels.lookup name with
  | some rank => return rank
  | none => throw (.unknownLevel name)

def rootFolder (disk : Disk) (output : Value) : Except Fault Path := do
  match ← output.entryD "root" (.text Config.defaultRoot) with
  | .text s => (disk.resolve? (Path.ofText s)).mapError .disk
  | .bytes _ => throw .bytesPath
  | v => throw (.notPath v.shortKindName)

def isVerbose (logging : Value) : Except Fault Bool := do
  return (← logging.entryD "verbose" (.bool true)).truthy

/-- Reads the plan of a run and sets the log up. -/
def begin (inv : Invocation) : Act (Plan × Bool) := do
  let disk := (← get).disk
  let config ← Act.ofResult (do Config.adjust (← Config.ofInvocation disk inv) inv)
  let config := Config.value config
  let logging ← Act.ofResult (config.configSection "logging")
  Act.showFrom (← Act.ofResult (threshold logging))
  let verbose ← Act.ofResult (isVerbose logging)
  let input ← Act.ofResult (config.configSection "input")
  let source ← Act.ofResult (input.toldEntry "source" Config.defaultSource)
  let output ← Act.ofResult (config.configSection "output")
  let root ← Act.ofResult (rootFolder disk output)
  return ({ config, source, root, output }, verbose)

def tableLogName : String := "squash_BenchmarkReporter.core.projection"

/-- The workbook of a document; cells that are not finite are logged. -/
def workbook (document : Document) : Act Workbook :=
  document.zipIdx.mapM fun ((name, dataset), index) => do
    let sheet ← Act.ofResult (Workbook.sheet index name dataset)
    for cell in sheet.table.warnings do
      Act.log .warning tableLogName ("non-finite cell: " ++ cell.text)
    return (name, sheet)

def loadedLine (document : Document) : String :=
  let names := ", ".intercalate (Entries.keys document)
  "[load] " ++ toString document.length ++ " dataset(s): " ++ (if names = "" then "-" else names)

def tell (notice : Notice) : Act Unit :=
  Act.print ("[ERROR] " ++ notice.logLine)

/-- Writes the page that says why there is no document. -/
def writeFailure (plan : Plan) (notice : Notice) : Act Unit := do
  tell notice
  let name ← Act.ofResult (OutputPlan.pageName plan.output)
  let html ← Act.ofResult (Page.ofFailure notice.forUser plan.config)
  discard (Page.write html (plan.root.child name))

/-- The run of an invocation, up to its status. -/
def report (exchange : Exchange) (inv : Invocation) : Act Nat := do
  let (plan, verbose) ← begin inv
  if verbose then
    Act.print ("[cfg] source=" ++ plan.source)
    Act.print ("[cfg] output=" ++ plan.root.text)
  match ← Act.attempt (Source.load exchange plan.config plan.source) with
  | .error (.load fault) =>
    writeFailure plan fault.notice
    return 1
  | .error fault => throw fault
  | .ok document =>
    if verbose then Act.print (loadedLine document)
    let book ← workbook document
    discard (writeAll book plan.config plan.root)
    return 0

/-- A run, up to its status; `exchange` is how a request would end. -/
def ofWords (exchange : Exchange) (words : List String) : Act Nat := do
  match Invocation.parse words with
  | .error fault => throw (.usage fault)
  | .ok .help =>
    Invocation.usageLines.forM Act.print
    return 0
  | .ok (.report inv) =>
    match ← Act.attempt (report exchange inv) with
    | .ok status => return status
    | .error (.config fault) =>
      tell fault.notice
      return usageStatus
    | .error fault => throw fault

/-- What a run has to say besides what it prints: what is wrong with the command line, and the log. -/
def errorLines (result : Except Fault Nat) (session : Session) : List String :=
  (match result with
    | .error (.usage fault) => Invocation.faultLines fault
    | _ => []) ++ session.logLines

end Run

end CodecReport
