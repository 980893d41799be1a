import CodecReport.Text.Split

/-!
# Paths

A path as it is written: the slashes it starts with and its parts. Empty parts and single points are
dropped, double points are kept, since what they lead to depends on the disk.
-/

namespace CodecReport

open Text

/-- A written path. `lead` is empty, one slash or two slashes. -/
structure Path where
  lead : String
  parts : List String
  deriving DecidableEq, Repr

namespace Path

/-- The slashes that a path keeps of those it starts with: two are kept, more count as one. -/
def leadOf (cs : List Char) : String :=
  match (cs.takeWhile (· == '/')).length with
  | 0 => ""
  | 2 => "//"
  | _ => "/"

def ofText (s : String) : Path where
  lead := leadOf s.toList
  parts := ((splitAt '/' s.toList).map String.ofList).filter fun part => part != "" && part != "."

/-- The text of a path; the empty path is a point. -/
def text (p : Path) : String :=
  if p.lead = "" ∧ p.parts = [] then "." else p.lead ++ "/".intercalate p.parts

def isAbsolute (p : Path) : Bool :=
  p.lead != ""

def hasNull (p : Path) : Bool :=
  p.text.toList.contains '\x00'

/-- A path behind another one: an absolute one stands for itself. -/
def append (p q : Path) : Path :=
  if q.isAbsolute then q else { p with parts := p.parts ++ q.parts }

/-- What a text writes, inside a folder. -/
def child (p : Path) (s : String) : Path :=
  p.append (ofText s)

def parent (p : Path) : Path :=
  { p with parts := p.parts.dropLast }

/-- The characters of a name before its ending: the last point counts, unless it is the first or the last
character. -/
def stem (name : List Char) : List Char :=
  let ending := name.reverse.takeWhile (· != '.')
  let before := name.take (name.length - ending.length - 1)
  if ending.isEmpty || before.isEmpty || ending.length == name.length then name else before

/-- The path with the ending of its last part replaced; there is none without a last part. -/
def withEnding? (p : Path) (ending : String) : Option Path :=
  match p.parts.getLast? with
  | none => none
  | some name =>
    some { p with parts := p.parts.dropLast ++ [String.ofList (stem name.toList) ++ ending] }

end Path

end CodecReport
