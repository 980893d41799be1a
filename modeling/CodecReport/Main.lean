import CodecReport.Run

/-!
# The command line

The outer layer: it looks at the places of the disk that a run may read, lets the run take place on that
picture, and carries out what it left behind. Requests are not sent from here, and the pictures and matrix
files, which other libraries write, are left out.
-/

namespace CodecReport

def lookAt (loc : Location) : IO (Option Node) := do
  let place := (← IO.currentDir) / ("/" ++ "/".intercalate loc)
  if ← place.isDir then return some .folder
  else if ← place.pathExists then return some (.file (← IO.FS.readBinFile place))
  else return none

/-- The picture of the disk with a path, and the folders around it, looked at. -/
def lookAlong (disk : Disk) (p : Path) : IO Disk := do
  let parts := (disk.resolve p).parts
  (List.range (parts.length + 1)).foldlM (fun disk n => do
    match ← lookAt (parts.take n) with
    | some node => return disk.put (parts.take n) node
    | none => return disk) disk

def lookAtSource (disk : Disk) (text : String) : IO Disk := do
  lookAlong (← lookAlong disk (Path.ofText text)) ((Path.ofText text).child Source.documentName)

def lookFor (disk : Disk) (inv : Invocation) : IO Disk := do
  let disk ← match inv.config with
    | some p => lookAlong disk p
    | none => pure disk
  match (Act.runOn { disk } (Run.begin inv)).1 with
  | .ok (plan, _) => lookAlong (← lookAtSource disk plan.source) plan.root
  | .error _ => return disk

def carryOut (change : Location × Node) : IO Unit := do
  let (loc, node) := change
  let place := "/" ++ "/".intercalate loc
  match node with
  | .folder => IO.FS.createDirAll place
  | .file content => IO.FS.writeBinFile place content

/-- The status to exit with; a fault that stops the run is told. -/
def exitStatus : Except Fault Nat → IO UInt32
  | .ok n => return n.toUInt32
  | .error (.usage _) => return usageStatus.toUInt32
  | .error fault => do
    IO.eprintln fault.message
    return 1

end CodecReport

open CodecReport

def main (words : List String) : IO UInt32 := do
  let home := (Path.ofText (← IO.currentDir).toString).parts
  let disk ← match Invocation.parse words with
    | .ok (.report inv) => lookFor { home } inv
    | _ => pure { home }
  let (result, session) := Act.runOn { disk } (Run.ofWords (.failed "no network") words)
  session.printed.forM IO.println
  (Run.errorLines result session).forM IO.eprintln
  (session.disk.nodes.filter (!disk.nodes.contains ·)).forM carryOut
  exitStatus result
