import CodecReport.Value.Web
import CodecReport.Yaml.Read

/-!
# The value of a configuration text

The nodes of a text become a web of values: every collection is a part under its node's number. Collections
are filled in the order in which they are met, those inside them later, so that of two faults the one less
deep inside is told. Keys are scalars; the key `<<` puts the entries of other mappings in front of the own
ones.
-/

namespace CodecReport.Yaml

namespace Nodes

/-- The mappings that a node merges into another one, in the order in which they are written: of several, the
first one is written last. -/
def mergedMaps? (nodes : Nodes) (source : Nat) : Option (List Nat) :=
  (nodes[source]?).bind fun node =>
    match node.content with
    | .map _ => some [source]
    | .list items => some items.reverse
    | .scalar _ => none

/-- The nodes with all keys that merge taken out of a mapping, and out of those that merge into it, and the
entries that they bring in front of the mapping's own ones. A default key becomes a text. -/
def flatten? : (fuel : Nat) → Nodes → Nat → Option Nodes
  | 0, nodes, _ => some nodes
  | fuel + 1, nodes, n =>
    let entries := nodes.entries n
    let own := entries.filter fun (key, _) => nodes.tag key ≠ .merge
    let sources := (entries.filter fun (key, _) => nodes.tag key = .merge).map (·.2)
    let nodes := own.foldl (fun nodes (key, _) =>
      if nodes.tag key = .default then nodes.setTag key .text else nodes) (nodes.setEntries n own)
    sources.foldlM (fun nodes source => do
      let maps ← nodes.mergedMaps? source
      let nodes ← maps.reverse.foldlM (fun nodes map =>
        match (nodes[map]?).map Node.content with
        | some (.map _) => flatten? fuel nodes map
        | _ => none) nodes
      let merged := maps.flatMap nodes.entries
      let before := (nodes.entries n).take ((nodes.entries n).length - own.length)
      return nodes.setEntries n (before ++ merged ++ own)) nodes

end Nodes

/-- What has been made of the nodes so far: the links to them, the parts that are filled and the numbers of
those that are not. -/
structure Builder where
  nodes : Nodes
  links : List (Nat × Link) := []
  parts : List (Nat × Part) := []
  waiting : List Nat := []

abbrev Building := StateT Builder (Except ReadFault)

namespace Building

/-- The link to a node. A collection is filled later. -/
def link (n : Nat) : Building Link := do
  let b ← get
  match b.links.lookup n with
  | some link => return link
  | none =>
    let tag := b.nodes.tag n
    if tag.isCollection then
      set { b with links := (n, .part n) :: b.links, waiting := b.waiting ++ [n] }
      return .part n
    else
      match b.nodes.text? (b.nodes.size + 1) n with
      | none => throw .malformed
      | some text =>
        let link := Link.value (← scalarValue tag text)
        set { b with links := (n, link) :: b.links }
        return link

def key (n : Nat) : Building Value := do
  match ← link n with
  | .value v => return v
  | .part _ => throw .malformed

def entries (n : Nat) : Building (List (Value × Link)) := do
  let b ← get
  match (b.nodes[n]?).map Node.content with
  | some (.map _) =>
    match b.nodes.flatten? (b.nodes.size + 1) n with
    | none => throw .malformed
    | some nodes =>
      set { b with nodes }
      (nodes.entries n).foldlM (fun filled (k, v) => do
        let key ← key k
        return Value.putKey key (← link v) filled) []
  | _ => throw .malformed

def pair (n : Nat) : Building (Link × Link) := do
  match (← get).nodes.entries n with
  | [(key, value)] => return (← link key, ← link value)
  | _ => throw .malformed

def part (n : Nat) : Building Part := do
  let nodes := (← get).nodes
  match nodes.tag n, (nodes[n]?).map Node.content with
  | .list, some (.list items) => return .list (← items.mapM link)
  | .pairs, some (.list items) => return .pairs (← items.mapM pair)
  | .set, _ => return .set ((← entries n).map (·.1))
  | .map, _ => return .map (← entries n)
  | _, _ => throw .malformed

/-- Fills the collections that wait, those first that have waited longest. -/
def fill : (fuel : Nat) → Building Unit
  | 0 => return
  | fuel + 1 => do
    match (← get).waiting with
    | [] => return
    | n :: rest =>
      modify fun b => { b with waiting := rest }
      let part ← part n
      modify fun b => { b with parts := (n, part) :: b.parts }
      fill fuel

def web (n : Nat) : Building Web := do
  let top ← link n
  fill ((← get).nodes.size + 1)
  return { parts := (← get).parts, top }

end Building

def read (text : String) : Except ReadFault Web :=
  match read? text with
  | none => .error .malformed
  | some (_, none) => .ok { parts := [], top := .value .null }
  | some (nodes, some n) => (·.1) <$> (Building.web n).run { nodes }

end CodecReport.Yaml
