import CodecReport.Fault
import CodecReport.Value.Key

/-!
# Webs of values

A configuration may name a part of itself and use it in several places, even inside that part. So its
collections are parts with numbers, and what a collection holds are links: values, or parts by number. A
change to a part shows wherever the part is used. `Web.unfold` gives the value that a web stands for.
-/

namespace CodecReport

/-- What a collection holds: a value of its own, or a part of the web. -/
inductive Link
  | value (v : Value)
  | part (number : Nat)

/-- A collection whose members may be parts of the web. -/
inductive Part
  | list (items : List Link)
  | pairs (items : List (Link × Link))
  | set (members : List Value)
  | map (entries : List (Value × Link))

namespace Part

def kindName : Part → String
  | .list _ | .pairs _ => "list"
  | .set _ => "set"
  | .map _ => "dict"

def isEmpty : Part → Bool
  | .list items => items.isEmpty
  | .pairs items => items.isEmpty
  | .set members => members.isEmpty
  | .map entries => entries.isEmpty

end Part

/-- Parts by number, and the link that the whole is reached by. -/
structure Web where
  parts : List (Nat × Part)
  top : Link

namespace Web

def part? (w : Web) (number : Nat) : Option Part := w.parts.lookup number

def setPart (w : Web) (number : Nat) (part : Part) : Web :=
  { w with parts := (number, part) :: w.parts.filter (·.1 ≠ number) }

def freshNumber (w : Web) : Nat :=
  w.parts.foldl (fun n (number, _) => max n (number + 1)) 0

/-- The web of sections, each a mapping of settings. -/
def ofSections (sections : Entries (Entries Value)) : Web where
  parts := (0, .map (sections.zipIdx.map fun ((name, _), i) => (.text name, .part (i + 1))))
    :: sections.zipIdx.map fun ((_, settings), i) =>
      (i + 1, .map (settings.map fun (key, v) => (.text key, .value v)))
  top := .part 0

def empty : Web := ofSections []

def isMap (w : Web) : Bool :=
  match w.top with
  | .part number => match w.part? number with
    | some (.map _) => true
    | _ => false
  | .value _ => false

/-- Whether what a link leads to counts as given. -/
def isGiven (w : Web) : Link → Bool
  | .value v => v.truthy
  | .part number => (w.part? number).any (!·.isEmpty)

/-- The member of a mapping under a text, if the link leads to a mapping that has it. -/
def member? (w : Web) (link : Link) (key : String) : Option Link :=
  match link with
  | .value _ => none
  | .part number => match w.part? number with
    | some (.map entries) => (entries.find? fun (k, _) => k.sameKey (.text key)).map (·.2)
    | _ => none

def put (w : Web) (link : Link) (key : String) (member : Link) : Except Fault Web :=
  match link with
  | .value v => .error (.notAssignable v.kindName)
  | .part number => match w.part? number with
    | some (.map entries) => .ok (w.setPart number (.map (Value.putKey (.text key) member entries)))
    | some (.set members) => .error (.notAssignable (Part.set members).kindName)
    | _ => .error .listKey

/-- The section under a key of the whole, and the web in which it is a mapping of its own if it was not
given. -/
def ownSection (w : Web) (key : String) : Except Fault (Link × Web) :=
  match (w.member? w.top key).filter w.isGiven with
  | some link => return (link, ← w.put w.top key link)
  | none =>
    let number := w.freshNumber
    return (.part number, ← (w.setPart number (.map [])).put w.top key (.part number))

/-- The value that a link stands for. A part inside itself is cut off there: `around` are the parts that
this one stands in. Parts that are only looked into (`looksInto`, by the keys that lead there) are not
counted. -/
def unfoldLink (w : Web) (looksInto : List String → Bool) :
    (fuel : Nat) → (around : List Nat) → (path : List String) → Link → Value
  | 0, _, _, _ => .null
  | _ + 1, _, _, .value v => v
  | fuel + 1, around, path, .part number =>
    let isKept := looksInto path
    let inside := if isKept then around else number :: around
    let unfold (key : String) := unfoldLink w looksInto fuel inside (path ++ [key])
    match w.part? number with
    | none => .null
    | some part =>
      if !isKept && around.contains number then
        .again (match part with
          | .map _ => false
          | _ => true)
      else match part with
        | .list items => .list (items.map (unfold ""))
        | .pairs items => .list (items.map fun (a, b) => .pair (unfold "" a) (unfold "" b))
        | .set members => .set (Value.setOrder members)
        | .map entries => Value.ofEntries (entries.map fun (key, link) => (key, unfold key.shown link))

def unfold (w : Web) (looksInto : List String → Bool) : Value :=
  unfoldLink w looksInto (2 * w.parts.length + 8) [] [] w.top

end Web

end CodecReport
