import CodecReport.Yaml.Layout
import CodecReport.Yaml.Plain

/-!
# Nodes

A configuration text as numbered scalars and collections, each with what it is read as. Collections hold the
numbers of their nodes, so that a node with a name may stand in several places, even inside itself.
-/

namespace CodecReport.Yaml

inductive Content
  | scalar (text : String)
  | list (items : List Nat)
  | map (entries : List (Nat × Nat))

/-- A scalar or a collection, and what it is read as. -/
structure Node where
  tag : Tag
  content : Content

abbrev Nodes := Array Node

namespace Node

/-- What a scalar is read as: what its tag says, else what its text suggests if it is `plain`. -/
def scalarTag (written : Option String) (text : String) (plain : Bool) : Tag :=
  match written with
  | none => if plain then plainTag text else .text
  | some name => if name = openTag then plainTag text else Tag.ofName name

/-- What a collection is read as: what its tag says, else what it looks like. -/
def collectionTag (written : Option String) (look : Tag) : Tag :=
  match written with
  | none => look
  | some name => if name = openTag then look else Tag.ofName name

def scalar (written : Option String) (text : String) (plain : Bool) : Node :=
  ⟨scalarTag written text plain, .scalar text⟩

/-- The node of an entry without a value. -/
def empty : Node := scalar none "" true

def entries (node : Node) : List (Nat × Nat) :=
  match node.content with
  | .map entries => entries
  | _ => []

end Node

namespace Nodes

def tag (nodes : Nodes) (n : Nat) : Tag := (nodes[n]?.map Node.tag).getD .unknown

def entries (nodes : Nodes) (n : Nat) : List (Nat × Nat) := (nodes[n]?.map Node.entries).getD []

def setEntries (nodes : Nodes) (n : Nat) (entries : List (Nat × Nat)) : Nodes :=
  nodes.modify n fun node => { node with content := .map entries }

def setTag (nodes : Nodes) (n : Nat) (tag : Tag) : Nodes :=
  nodes.modify n fun node => { node with tag }

/-- The text of a node where a text is meant: of a scalar its own, of a mapping that of the value under its
default key. -/
def text? (nodes : Nodes) : (fuel : Nat) → Nat → Option String
  | 0, _ => none
  | fuel + 1, n => do
    match (← nodes[n]?).content with
    | .scalar text => return text
    | .list _ => none
    | .map entries =>
      let (_, value) ← entries.find? fun (key, _) => nodes.tag key = .default
      text? nodes fuel value

end Nodes

end CodecReport.Yaml
