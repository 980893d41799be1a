import CodecReport.Disk.Path
import CodecReport.Text.Quoted

/-!
# The disk

Files and folders by their location, the list of names from the root. A written path is followed part by
part, so that a path through a missing folder leads nowhere even if it turns back. Operations that write
say what stopped them and leave the disk as far as it was changed until then.
-/

namespace CodecReport

inductive Node
  | folder
  | file (content : ByteArray)

instance : DecidableEq Node
  | .folder, .folder => isTrue rfl
  | .folder, .file _ => isFalse nofun
  | .file _, .folder => isFalse nofun
  | .file left, .file right => decidable_of_iff (left.data = right.data) (by rw [Node.file.injEq, ByteArray.ext_iff])

/-- The names from the root to a place on the disk. -/
abbrev Location := List String

/-- The disk: the current folder, what stands where, and, if the medium is damaged, why no file's content
can be read. -/
structure Disk where
  home : Location
  nodes : List (Location × Node) := []
  damage : Option String := none

inductive DiskCause
  | noEntry
  | exists
  | notFolder
  | isFolder
  | nameTooLong
  deriving DecidableEq, Repr

inductive DiskFault
  | refused (cause : DiskCause) (path : String)
  | damaged (reason : String)
  /-- The path holds the zero character, which no name on a disk does. -/
  | nullInPath
  deriving DecidableEq, Repr

namespace DiskCause

def number : DiskCause → Nat
  | .noEntry => 2
  | .exists => 17
  | .notFolder => 20
  | .isFolder => 21
  | .nameTooLong => 36

def message : DiskCause → String
  | .noEntry => "No such file or directory"
  | .exists => "File exists"
  | .notFolder => "Not a directory"
  | .isFolder => "Is a directory"
  | .nameTooLong => "File name too long"

end DiskCause

namespace DiskFault

def message : DiskFault → String
  | .refused cause path =>
    "[Errno " ++ toString cause.number ++ "] " ++ cause.message ++ ": " ++ Text.quoted path
  | .damaged reason => reason
  | .nullInPath => "embedded null byte"

end DiskFault

namespace Disk

def nameLimit : Nat := 255

/-- A path of this many bytes is too long. -/
def pathLimit : Nat := 4096

/-- What stands at a location. The root and the folders around the current one always exist. -/
def node? (disk : Disk) (loc : Location) : Option Node :=
  if loc.isPrefixOf disk.home then some .folder else disk.nodes.lookup loc

/-- One step of a path from a location: the name must not be too long, and the location must be a
folder. -/
def step (disk : Disk) (loc : Location) (part : String) : Except DiskCause Location :=
  match disk.node? loc with
  | none => .error .noEntry
  | some (.file _) => .error .notFolder
  | some .folder =>
    if part = ".." then .ok loc.dropLast
    else if nameLimit < part.utf8ByteSize then .error .nameTooLong
    else .ok (loc ++ [part])

/-- The location that a path leads to; its last part need not exist. -/
def follow (disk : Disk) (p : Path) : Except DiskCause Location :=
  if pathLimit ≤ p.text.utf8ByteSize then .error .nameTooLong
  else p.parts.foldlM disk.step (if p.isAbsolute then [] else disk.home)

def refuse (p : Path) (cause : DiskCause) : DiskFault :=
  .refused cause p.text

def locate (disk : Disk) (p : Path) : Except DiskFault Location :=
  if p.hasNull then .error .nullInPath
  else (disk.follow p).mapError (refuse p)

/-- What a path leads to, if anything: that it leads nowhere is no fault, a name that is too long is. -/
def probe (disk : Disk) (p : Path) : Except DiskFault (Option Node) :=
  match disk.locate p with
  | .ok loc => .ok (disk.node? loc)
  | .error (.refused .nameTooLong path) => .error (.refused .nameTooLong path)
  | .error _ => .ok none

def read (disk : Disk) (p : Path) : Except DiskFault ByteArray := do
  match disk.node? (← disk.locate p), disk.damage with
  | none, _ => throw (refuse p .noEntry)
  | some .folder, _ => throw (refuse p .isFolder)
  | some (.file _), some reason => throw (.damaged reason)
  | some (.file content), none => return content

def put (disk : Disk) (loc : Location) (node : Node) : Disk :=
  { disk with nodes := disk.nodes.filter (·.1 != loc) ++ [(loc, node)] }

def makeFolder (disk : Disk) (p : Path) : Except DiskFault Disk := do
  let loc ← disk.locate p
  if (disk.node? loc).isSome then throw (refuse p .exists)
  return disk.put loc .folder

/-- Takes a refusal back when the path leads to a folder already. -/
def unlessFolder (disk : Disk) (p : Path) (fault : DiskFault) : Except DiskFault Disk := do
  match ← disk.probe p with
  | some .folder => return disk
  | _ => throw fault

/-- Makes a folder and the folders around it, as far as they are missing. Where it fails, the folders made
until then stay, so the disk is given back in either case. -/
def makeFolders (disk : Disk) (p : Path) : Except DiskFault Unit × Disk :=
  match disk.makeFolder p with
  | .ok made => (.ok (), made)
  | .error (.refused .noEntry path) =>
    if _h : p.parts = [] then (.error (.refused .noEntry path), disk)
    else
      match makeFolders disk p.parent with
      | (.error fault, made) => (.error fault, made)
      | (.ok (), made) =>
        match made.makeFolder p with
        | .ok full => (.ok (), full)
        | .error fault => ((made.unlessFolder p fault).map fun _ => (), made)
  | .error .nullInPath => (.error .nullInPath, disk)
  | .error fault => ((disk.unlessFolder p fault).map fun _ => (), disk)
termination_by p.parts.length
decreasing_by
  have : 0 < p.parts.length := List.length_pos_iff.mpr _h
  simp only [Path.parent, List.length_dropLast]
  omega

/-- Puts a text where a path leads, as its bytes in UTF-8. -/
def write (disk : Disk) (p : Path) (content : String) : Except DiskFault Disk := do
  let loc ← disk.locate p
  match disk.node? loc with
  | some .folder => throw (refuse p .isFolder)
  | _ => return disk.put loc (.file content.toUTF8)

/-- The location of a path, double points undone by name alone. -/
def resolve (disk : Disk) (p : Path) : Path where
  lead := "/"
  parts := p.parts.foldl (fun loc part => if part = ".." then loc.dropLast else loc ++ [part])
    (if p.isAbsolute then [] else disk.home)

/-- The location of a path that may hold any character. -/
def resolve? (disk : Disk) (p : Path) : Except DiskFault Path :=
  if p.hasNull then .error .nullInPath else .ok (disk.resolve p)

/-- The texts in files inside the current folder, each with its location from there. -/
def filesAtHome (disk : Disk) : List (Location × String) :=
  disk.nodes.filterMap fun (loc, node) =>
    match node with
    | .file content =>
      if disk.home.isPrefixOf loc then
        (String.fromUTF8? content).map fun text => (loc.drop disk.home.length, text)
      else none
    | .folder => none

end Disk

end CodecReport
