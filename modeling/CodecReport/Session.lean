import CodecReport.Fault
import CodecReport.Steps

/-!
# Sessions

What a run reads and leaves behind: the disk, the lines it prints, the events it logs, the pictures and
matrices it hands to the libraries that write them, and the requests it sends. A step that fails keeps all
that was done before.
-/

namespace CodecReport

structure Stroke where
  name : String
  args : List Value := []
  named : Entries Value := []

abbrev Picture := List Stroke

/-- A column of a matrix file: texts, or numbers of which some may be missing. -/
inductive MatrixField
  | texts (items : List String)
  | numbers (items : List Double)

/-- A matrix file: where it is written, the variable it defines and the fields of that variable. -/
structure MatrixFile where
  path : Path
  variableName : String
  fields : Entries MatrixField

inductive Severity
  | debug
  | info
  | warning
  | error
  | critical
  deriving DecidableEq, Repr

namespace Severity

def rank : Severity → Nat
  | .debug => 10
  | .info => 20
  | .warning => 30
  | .error => 40
  | .critical => 50

def name : Severity → String
  | .debug => "DEBUG"
  | .info => "INFO"
  | .warning => "WARNING"
  | .error => "ERROR"
  | .critical => "CRITICAL"

end Severity

structure LogEntry where
  severity : Severity
  source : String
  message : String
  deriving DecidableEq, Repr

def LogEntry.line (e : LogEntry) : String :=
  e.severity.name ++ " " ++ e.source ++ ": " ++ e.message

structure Session where
  disk : Disk
  printed : List String := []
  logged : List LogEntry := []
  /-- The least rank of the events that the log shows. -/
  threshold : Nat := Severity.warning.rank
  pictures : List Picture := []
  matrices : List MatrixFile := []
  requests : List (String × Double) := []

def Session.logLines (s : Session) : List String :=
  (s.logged.filter (s.threshold ≤ ·.severity.rank)).map LogEntry.line

abbrev Act := Steps Fault Session

namespace Act

export Steps (runOn ofResult)

/-- Runs steps and gives the fault that stops them, if any, as their result. -/
def attempt {α : Type} (steps : Act α) : Act (Except Fault α) :=
  ExceptT.mk (Except.ok <$> steps.run)

def print (line : String) : Act Unit :=
  modify fun s => { s with printed := s.printed ++ [line] }

def log (severity : Severity) (source message : String) : Act Unit :=
  modify fun s => { s with logged := s.logged ++ [⟨severity, source, message⟩] }

def showFrom (threshold : Nat) : Act Unit :=
  modify fun s => { s with threshold }

def request (location : String) (timeout : Double) : Act Unit :=
  modify fun s => { s with requests := s.requests ++ [(location, timeout)] }

def startPicture (stroke : Stroke) : Act Unit :=
  modify fun s => { s with pictures := s.pictures ++ [[stroke]] }

def addStroke (stroke : Stroke) (pictures : List Picture) : List Picture :=
  match pictures.getLast? with
  | some last => pictures.dropLast ++ [last ++ [stroke]]
  | none => [[stroke]]

def stroke (stroke : Stroke) : Act Unit :=
  modify fun s => { s with pictures := addStroke stroke s.pictures }

def writeMatrix (file : MatrixFile) : Act Unit :=
  modify fun s => { s with matrices := s.matrices ++ [file] }

def makeFolders (p : Path) : Act Unit := do
  let (outcome, disk) := (← get).disk.makeFolders p
  modify fun s => { s with disk }
  ofResult (outcome.mapError .disk)

def writeFile (p : Path) (content : String) : Act Unit := do
  let disk ← ofResult (((← get).disk.write p content).mapError .disk)
  modify fun s => { s with disk }

end Act

end CodecReport
