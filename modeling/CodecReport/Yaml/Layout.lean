import CodecReport.Yaml.Scalar

/-!
# Layout

The tokens of a configuration text are its words and the marks that its layout stands for: where a collection
starts and ends, and where an entry, a key or the value of a key begins. Outside brackets the column where a
collection starts says how long it goes on: `Layout.depths` holds the columns of the open ones, counted from one,
the innermost first.

A key is known as such only when its colon is seen. Until then its place is remembered, and the tokens that
announce it are put in front of the token that stands there. The colon has to follow on the same line and
within `keyReach` characters.
-/

namespace CodecReport.Yaml

/-- A word of the text or a mark of its layout. -/
inductive Token
  /-- The version of the language that the text states. -/
  | version (major : Nat)
  /-- A handle for tags and what it stands for. -/
  | handle (name start : String)
  /-- A directive that means nothing here. -/
  | directive
  | documentStart
  | documentEnd
  | blockSequence
  | blockMapping
  | blockEnd
  | sequenceOpen
  | sequenceClose
  | mappingOpen
  | mappingClose
  /-- An item of a block sequence begins. -/
  | item
  /-- An entry between brackets ends. -/
  | comma
  | key
  | value
  | alias (name : String)
  | anchor (name : String)
  | tag (handle : Option String) (suffix : String)
  /-- A scalar, `plain` if it stands without quotes. -/
  | scalar (text : String) (plain : Bool)
  deriving DecidableEq, Repr

/-- How far a key may reach up to its colon. -/
def keyReach : Nat := 1024

structure KeyPlace where
  /-- The position of its first token. -/
  slot : Nat
  /-- Whether nothing but a key can stand there. -/
  required : Bool
  line : Nat
  column : Nat
  offset : Nat

/-- A text that is read for its tokens. -/
structure Layout where
  cursor : Cursor
  /-- The tokens so far, each behind those that announce a key in front of it. -/
  tokens : Array (List Token) := #[]
  /-- The number of open brackets. -/
  brackets : Nat := 0
  depths : List Nat := []
  /-- Whether a key may begin here. -/
  keyAllowed : Bool := true
  /-- The places of possible keys, by the number of open brackets around them. -/
  keys : List (Nat × KeyPlace) := []

namespace Layout

def inBrackets (l : Layout) : Bool := l.brackets != 0

/-- The column of the innermost collection by layout, counted from one; zero outside any. -/
def depth (l : Layout) : Nat := l.depths.headD 0

def push (l : Layout) (t : Token) : Layout :=
  { l with tokens := l.tokens.push [t] }

/-- Moves on behind the next `n` characters, which are the given token. -/
def accept (l : Layout) (n : Nat) (t : Token) : Layout :=
  { l.push t with cursor := l.cursor.skip n }

/-- Closes the collections that started right of a depth. -/
def closeBeyond (l : Layout) (limit : Nat) : Layout :=
  let (closed, depths) := l.depths.span (limit < ·)
  closed.foldl (fun l _ => l.push .blockEnd) { l with depths }

/-- Closes the collections that do not go on at this column. -/
def closeHere (l : Layout) : Layout :=
  if l.inBrackets then l else l.closeBeyond (l.cursor.column + 1)

/-- Enters a collection at a column, unless one is open there; tells whether it is entered. -/
def enter (l : Layout) (column : Nat) : Bool × Layout :=
  if l.depth < column + 1 then (true, { l with depths := (column + 1) :: l.depths }) else (false, l)

/-- Gives up the possible key among the current brackets; refused if a key has to stand there. -/
def dropKey (l : Layout) : Option Layout :=
  match l.keys.lookup l.brackets with
  | some place =>
    if place.required then none else some { l with keys := l.keys.filter (·.1 != l.brackets) }
  | none => some l

/-- Gives up the possible keys that are out of reach. -/
def dropStale (l : Layout) : Option Layout :=
  let stale (p : Nat × KeyPlace) : Bool :=
    p.2.line != l.cursor.line || keyReach < l.cursor.offset - p.2.offset
  if l.keys.any fun p => stale p && p.2.required then none
  else some { l with keys := l.keys.filter (!stale ·) }

/-- Remembers that a key may begin here. -/
def markKey (l : Layout) : Option Layout :=
  if l.keyAllowed then do
    let place : KeyPlace := {
      slot := l.tokens.size
      required := !l.inBrackets && l.depth == l.cursor.column + 1
      line := l.cursor.line
      column := l.cursor.column
      offset := l.cursor.offset }
    let l ← l.dropKey
    return { l with keys := (l.brackets, place) :: l.keys }
  else some l

/-- Goes on to the next word, over blanks, comments and line ends. A key may begin on a new line. -/
def skipGap : (fuel : Nat) → Layout → Layout
  | 0, l => l
  | fuel + 1, l =>
    let (_, behind) := l.cursor.takeWhile (· == ' ')
    let (_, behind) := if behind.peek == some '#' then behind.takeWhile (!isBreak ·) else ([], behind)
    match behind.peek with
    | some x =>
      if isBreak x then
        skipGap fuel { l with cursor := behind.next, keyAllowed := l.keyAllowed || !l.inBrackets }
      else { l with cursor := behind }
    | none => { l with cursor := behind }

def isNameChar (c : Char) : Bool :=
  c.isAlphanum || c == '-' || c == '_'

def isTagChar (c : Char) : Bool :=
  c.isAlphanum || "-;/?:@&=+$,_.!~*'()[]%".toList.contains c

/-- Whether a text ends here or goes on with a blank or a line end. -/
def atGap : List Char → Bool
  | [] => true
  | c :: _ => c == ' ' || isBreak c

/-- The characters of a tag, escapes by number resolved, and the cursor behind them. -/
def tagText (c : Cursor) : Option (String × Cursor) :=
  let (taken, behind) := c.takeWhile isTagChar
  if taken.isEmpty then none else some (String.ofList (Text.percentDecodeFrom [] taken), behind)

/-- The handle of a tag, between exclamation marks, and the cursor behind it. -/
def tagHandle (c : Cursor) : Option (String × Cursor) :=
  if c.peek != some '!' then none
  else if c.next.peek == some ' ' then some ("!", c.next)
  else
    let (name, behind) := c.next.takeWhile isNameChar
    if behind.peek == some '!' then some (String.ofList ('!' :: name ++ ['!']), behind.next) else none

def readTag (c : Cursor) : Option (Token × Cursor) := do
  let (token, behind) ← match c.next.peek with
    | some '<' =>
      let (suffix, behind) ← tagText c.next.next
      if behind.peek == some '>' then some (Token.tag none suffix, behind.next) else none
    | following =>
      if following.all isSpace then some (.tag none "!", c.next)
      else
        let word := c.next.rest.takeWhile fun x => !(x == ' ' || isBreak x)
        let (handle, behind) ← if word.contains '!' then tagHandle c else some ("!", c.next)
        let (suffix, behind) ← tagText behind
        some (.tag (some handle) suffix, behind)
  if atGap behind.rest then some (token, behind) else none

/-- The name behind the sign of an anchor or of an alias. -/
def readName (c : Cursor) : Option (String × Cursor) :=
  let (name, behind) := c.next.takeWhile isNameChar
  let ends := atSpace behind.rest || behind.rest.head?.any fun x => "?:,]\x7d%@`".toList.contains x
  if name.isEmpty || !ends then none else some (String.ofList name, behind)

def versionNumber (c : Cursor) : Option (Nat × Cursor) :=
  let (digits, behind) := c.takeWhile Char.isDigit
  if digits.isEmpty then none else some (Text.digitsValue digits, behind)

def readDirective (c : Cursor) : Option (Token × Cursor) := do
  let (name, behind) := c.next.takeWhile isNameChar
  if name.isEmpty || !atGap behind.rest then none
  else
    let (_, body) := behind.takeWhile (· == ' ')
    let (token, behind) ← match String.ofList name with
      | "YAML" => do
        let (major, behind) ← versionNumber body
        if behind.peek == some '.' then
          let (_, behind) ← versionNumber behind.next
          if atGap behind.rest then some (.version major, behind) else none
        else none
      | "TAG" => do
        let (name, behind) ← tagHandle body
        if behind.peek == some ' ' then
          let (_, behind) := behind.takeWhile (· == ' ')
          let (start, behind) ← tagText behind
          if atGap behind.rest then some (.handle name start, behind) else none
        else none
      | _ => some (.directive, (behind.takeWhile (!isBreak ·)).2)
    return (token, ← restOfLine behind)

/-- Whether a scalar without quotes begins here. -/
def atPlain (brackets : Bool) : List Char → Bool
  | [] => false
  | c :: rest =>
    if isSpace c then false
    else if "-?:,[]\x7b\x7d#&*!|>'\"%@`".toList.contains c then
      !atSpace rest && (c == '-' || (!brackets && (c == '?' || c == ':')))
    else true

/-- The document ends or another one starts. -/
def document (l : Layout) (n : Nat) (t : Token) : Option Layout := do
  let l ← (l.closeBeyond 0).dropKey
  return { l.accept n t with keyAllowed := false }

def openBracket (l : Layout) (t : Token) : Option Layout := do
  let l ← l.markKey
  return { l.accept 1 t with brackets := l.brackets + 1, keyAllowed := true }

def closeBracket (l : Layout) (t : Token) : Option Layout := do
  if l.inBrackets then
    let l ← l.dropKey
    return { l.accept 1 t with brackets := l.brackets - 1, keyAllowed := false }
  else none

/-- A mark that begins an item, a key or a value at this column: it opens a collection if none is open
there. -/
def beginEntry (l : Layout) (collection : Token) : Option Layout :=
  if l.inBrackets then some l
  else if l.keyAllowed then
    let (entered, l) := l.enter l.cursor.column
    some (if entered then l.push collection else l)
  else none

def item (l : Layout) : Option Layout := do
  let l ← l.beginEntry .blockSequence
  let l ← l.dropKey
  return { l.accept 1 .item with keyAllowed := true }

def explicitKey (l : Layout) : Option Layout := do
  let l ← l.beginEntry .blockMapping
  let l ← l.dropKey
  return { l.accept 1 .key with keyAllowed := !l.inBrackets }

/-- The colon in front of a value. -/
def colon (l : Layout) : Option Layout := do
  match l.keys.lookup l.brackets with
  | some place =>
    let (entered, l) := if l.inBrackets then (false, l) else l.enter place.column
    let announced := if entered then [Token.blockMapping, .key] else [.key]
    let l := { l with
      tokens := l.tokens.modify place.slot (announced ++ ·)
      keys := l.keys.filter (·.1 != l.brackets) }
    return { l.accept 1 .value with keyAllowed := false }
  | none =>
    let l ← l.beginEntry .blockMapping
    let l ← l.dropKey
    return { l.accept 1 .value with keyAllowed := !l.inBrackets }

/-- A word that may be a key, up to a cursor. -/
def word (l : Layout) (read : Option (Token × Cursor)) (keyAllowed : Bool) : Option Layout := do
  let l ← l.markKey
  let (token, cursor) ← read
  return { l.push token with cursor, keyAllowed }

def quoted (l : Layout) (quote : Char) : Option Layout :=
  let read := do
    let (text, behind) ← quotedText quote l.cursor.rest.length l.cursor.next
    return (Token.scalar (String.ofList text) false, behind)
  l.word read false

def plain (l : Layout) : Option Layout :=
  let (text, behind, ended) := plainText l.inBrackets l.depth l.cursor.rest.length l.cursor
  l.word (some (.scalar (String.ofList text) true, behind)) ended

def block (l : Layout) (folded : Bool) : Option Layout := do
  let l ← l.dropKey
  let (text, cursor) ← blockText folded l.depth l.cursor.next
  return { l.push (.scalar (String.ofList text) false) with cursor, keyAllowed := true }

def next (l : Layout) (x : Char) (rest : List Char) : Option Layout :=
  let spaced := l.inBrackets || atSpace rest
  if l.cursor.column == 0 && x == '%' then do
    let l ← (l.closeBeyond 0).dropKey
    let (token, cursor) ← readDirective l.cursor
    return { l.push token with cursor, keyAllowed := false }
  else if l.cursor.column == 0 && atDocumentMark l.cursor.rest then
    l.document 3 (if x == '-' then .documentStart else .documentEnd)
  else match x with
    | '[' => l.openBracket .sequenceOpen
    | '\x7b' => l.openBracket .mappingOpen
    | ']' => l.closeBracket .sequenceClose
    | '\x7d' => l.closeBracket .mappingClose
    | ',' => do
      let l ← l.dropKey
      return { l.accept 1 .comma with keyAllowed := true }
    | '*' => l.word ((readName l.cursor).map fun (name, behind) => (.alias name, behind)) false
    | '&' => l.word ((readName l.cursor).map fun (name, behind) => (.anchor name, behind)) false
    | '!' => l.word (readTag l.cursor) false
    | '\'' => l.quoted '\''
    | '"' => l.quoted '"'
    | _ =>
      if x == '-' && atSpace rest then l.item
      else if x == '?' && spaced then l.explicitKey
      else if x == ':' && spaced then l.colon
      else if !l.inBrackets && (x == '|' || x == '>') then l.block (x == '>')
      else if atPlain l.inBrackets l.cursor.rest then l.plain
      else none

def run : (fuel : Nat) → Layout → Option (List Token)
  | 0, _ => none
  | fuel + 1, l => do
    let l ← (l.skipGap (l.cursor.rest.length + 1)).dropStale
    let l := l.closeHere
    match l.cursor.rest with
    | [] =>
      let l ← (l.closeBeyond 0).dropKey
      return l.tokens.toList.flatten
    | x :: rest => run fuel (← l.next x rest)

end Layout

/-- Whether a character may stand in a text. -/
def isAllowed (c : Char) : Bool :=
  c == '\t' || c == '\n' || c == '\r' || c == '\x85' || (' ' ≤ c && c ≤ '~') ||
    ('\xa0' ≤ c && c ≤ '\ufffd') || '\uffff' < c

/-- The lines of a text, all ended in the same way. -/
def plainLines : List Char → List Char
  | '\r' :: '\n' :: rest => '\n' :: plainLines rest
  | '\r' :: rest => '\n' :: plainLines rest
  | c :: rest => c :: plainLines rest
  | [] => []

def tokens (text : List Char) : Option (List Token) :=
  let text := plainLines text
  let body := match text with
    | '\ufeff' :: rest => rest
    | text => text
  if text.all isAllowed then Layout.run (body.length + 1) { cursor := { rest := body } } else none

end CodecReport.Yaml
