import CodecReport.Yaml.Layout
import CodecReport.Yaml.Node

/-!
# Reading a configuration text

Nodes out of tokens; an alias is the node that its anchor names. A text holds one document at most; without
any it stands for nothing.
-/

namespace CodecReport.Yaml

/-- The tokens still to be read, the nodes read so far, the numbers of those with a name, and what the handles
of tags stand for. -/
structure Reader where
  rest : List Token
  nodes : Nodes := #[]
  anchors : List (String × Nat) := []
  handles : List (String × String) := []

/-- Reading, which gives nothing where tokens are out of place. -/
abbrev Reading := StateT Reader Option

namespace Reading

def peek : Reading (Option Token) := do return (← get).rest.head?

def advance : Reading Unit := modify fun r => { r with rest := r.rest.tail }

/-- Goes on behind the next token if it is the given one; tells whether it is. -/
def accept (t : Token) : Reading Bool := do
  if (← peek) = some t then
    advance
    return true
  else return false

/-- Goes on behind the given token, which has to be next. -/
def expect (t : Token) : Reading Unit := do
  unless ← accept t do failure

def isAt (ts : List Token) : Reading Bool := do
  return (← peek).any ts.contains

/-- The name that an anchor gives to the node that follows, if there is an anchor. -/
def anchor? : Reading (Option String) := do
  match ← peek with
  | some (.anchor name) =>
    advance
    return some name
  | _ => return none

def tag? : Reading (Option String) := do
  match ← peek with
  | some (.tag handle suffix) =>
    advance
    match handle with
    | none => return some suffix
    | some handle =>
      match (← get).handles.lookup handle with
      | some start => return some (start ++ suffix)
      | none => failure
  | _ => return none

def properties : Reading (Option String × Option String) := do
  let first ← anchor?
  let tag ← tag?
  match first, tag with
  | none, some _ => return (← anchor?, tag)
  | _, _ => return (first, tag)

/-- Adds a node, under a name if it has one, which no other node may have; gives its number. -/
def add (anchor : Option String) (node : Node) : Reading Nat := do
  let r ← get
  if anchor.any fun name => (r.anchors.lookup name).isSome then failure
  else
    let named := anchor.toList.map fun name => (name, r.nodes.size)
    set { r with nodes := r.nodes.push node, anchors := named ++ r.anchors }
    return r.nodes.size

/-- Adds a list, whose items are read after it has got its number. -/
def addList (anchor written : Option String) (items : Reading (List Nat)) : Reading Nat := do
  let number ← add anchor ⟨Node.collectionTag written .list, .list []⟩
  let items ← items
  modify fun r => { r with nodes := r.nodes.modify number ({ · with content := .list items }) }
  return number

/-- Adds a mapping, whose entries are read after it has got its number. -/
def addMap (anchor written : Option String) (entries : Reading (List (Nat × Nat))) : Reading Nat := do
  let number ← add anchor ⟨Node.collectionTag written .map, .map []⟩
  let entries ← entries
  modify fun r => { r with nodes := r.nodes.setEntries number entries }
  return number

mutual

/-- A node. Outside brackets (`block`) it may be a collection by layout, and as an entry of a mapping
(`entry`) a sequence whose items are not indented. -/
def node (block entry : Bool) : (fuel : Nat) → Reading Nat
  | 0 => failure
  | fuel + 1 => do
    match ← peek with
    | some (.alias name) =>
      advance
      match (← get).anchors.lookup name with
      | some node => return node
      | none => failure
    | _ =>
      let (anchor, tag) ← properties
      match ← peek with
      | some (.scalar text plain) =>
        advance
        add anchor (.scalar tag text plain)
      | some .sequenceOpen =>
        advance
        addList anchor tag (flowItems true fuel)
      | some .mappingOpen =>
        advance
        addMap anchor tag (flowEntries true fuel)
      | following =>
        if entry && following = some .item then addList anchor tag (bareItems fuel)
        else if block && following = some .blockSequence then
          advance
          addList anchor tag (blockItems fuel)
        else if block && following = some .blockMapping then
          advance
          addMap anchor tag (blockEntries fuel)
        else if anchor.isSome || tag.isSome then
          add anchor (.scalar tag "" (tag.all (· = openTag)))
        else failure

/-- A node, or an empty one in front of certain tokens. -/
def nodeUnless (ends : List Token) (block entry : Bool) : (fuel : Nat) → Reading Nat
  | 0 => failure
  | fuel + 1 => do
    if ← isAt ends then add none .empty else node block entry fuel

/-- The items of a block sequence, up to its end. -/
def blockItems : (fuel : Nat) → Reading (List Nat)
  | 0 => failure
  | fuel + 1 => do
    if ← accept .item then
      let first ← nodeUnless [.item, .blockEnd] true false fuel
      return first :: (← blockItems fuel)
    else
      expect .blockEnd
      return []

/-- The items of a block sequence that is not indented. -/
def bareItems : (fuel : Nat) → Reading (List Nat)
  | 0 => failure
  | fuel + 1 => do
    if ← accept .item then
      let first ← nodeUnless [.item, .key, .value, .blockEnd] true false fuel
      return first :: (← bareItems fuel)
    else return []

/-- The entries of a block mapping, up to its end. -/
def blockEntries : (fuel : Nat) → Reading (List (Nat × Nat))
  | 0 => failure
  | fuel + 1 => do
    if ← accept .key then
      let key ← nodeUnless [.key, .value, .blockEnd] true true fuel
      let value ←
        if ← accept .value then nodeUnless [.key, .value, .blockEnd] true true fuel else add none .empty
      return (key, value) :: (← blockEntries fuel)
    else
      expect .blockEnd
      return []

/-- The items up to the closing bracket. A single entry of a mapping may be an item. -/
def flowItems (first : Bool) : (fuel : Nat) → Reading (List Nat)
  | 0 => failure
  | fuel + 1 => do
    if ← accept .sequenceClose then return []
    else
      unless first do expect .comma
      if ← accept .key then
        let key ← nodeUnless [.value, .comma, .sequenceClose] false false fuel
        let value ←
          if ← accept .value then nodeUnless [.comma, .sequenceClose] false false fuel else add none .empty
        let entry ← addMap none none (pure [(key, value)])
        return entry :: (← flowItems false fuel)
      else if ← accept .sequenceClose then return []
      else
        let item ← node false false fuel
        return item :: (← flowItems false fuel)

/-- The entries up to the closing brace. An entry without a colon has no value. -/
def flowEntries (first : Bool) : (fuel : Nat) → Reading (List (Nat × Nat))
  | 0 => failure
  | fuel + 1 => do
    if ← accept .mappingClose then return []
    else
      unless first do expect .comma
      if ← accept .key then
        let key ← nodeUnless [.value, .comma, .mappingClose] false false fuel
        let value ←
          if ← accept .value then nodeUnless [.comma, .mappingClose] false false fuel else add none .empty
        return (key, value) :: (← flowEntries false fuel)
      else if ← accept .mappingClose then return []
      else
        let key ← node false false fuel
        return (key, ← add none .empty) :: (← flowEntries false fuel)

end

def knownHandles : List (String × String) :=
  [("!", openTag), ("!!", tagSpace)]

/-- The directives in front of a document: whether its version is told, and the handles it defines. -/
def directives : (fuel : Nat) → (versioned : Bool) → List (String × String) → Reading (List (String × String))
  | 0, _, _ => failure
  | fuel + 1, versioned, handles => do
    match ← peek with
    | some (.version major) =>
      if versioned || major != 1 then failure
      else
        advance
        directives fuel true handles
    | some (.handle name start) =>
      if (handles.lookup name).isSome then failure
      else
        advance
        directives fuel versioned (handles ++ [(name, start)])
    | some .directive =>
      advance
      directives fuel versioned handles
    | _ => return handles

def skipEnds : Reading Unit :=
  modify fun r => { r with rest := r.rest.dropWhile (· = .documentEnd) }

/-- Whether the next token belongs to the frame around a document. -/
def atFrame : Reading Bool := do
  match ← peek with
  | none | some .documentStart | some (.version _) | some (.handle _ _) | some .directive => return true
  | _ => return false

def document (fuel : Nat) : Reading (Option Nat) := do
  let found ←
    if ← atFrame then
      skipEnds
      if (← peek).isNone then return none
      let handles ← directives fuel false []
      modify fun r => { r with handles := handles ++ knownHandles }
      expect .documentStart
      if (← atFrame) || (← isAt [.documentEnd]) then add none .empty else node true false fuel
    else node true false fuel
  skipEnds
  if (← peek).isSome then failure
  return some found

end Reading

/-- The nodes of a configuration text and the number of the outermost one, if there is any; nothing if the text
is malformed. -/
def read? (text : String) : Option (Nodes × Option Nat) := do
  let tokens ← tokens text.toList
  let reader : Reader := { rest := tokens, handles := Reading.knownHandles }
  let (document, reader) ← (Reading.document (4 * tokens.length + 4)).run reader
  return (reader.nodes, document)

end CodecReport.Yaml
