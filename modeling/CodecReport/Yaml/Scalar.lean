import CodecReport.Text.Percent
import CodecReport.Yaml.Cursor

/-!
# Scalars as they are written

The text of a scalar without quotes, between quotes, and in a block of its own lines. A scalar over several
lines is folded: a line end is a space and an empty line is a line feed.
-/

namespace CodecReport.Yaml

/-- How many characters at the front belong to a word of a scalar without quotes. Inside brackets the marks
of collections end it too. -/
def wordLength (flow : Bool) : List Char → Nat
  | [] => 0
  | c :: rest =>
    if isSpace c then 0
    else if c == ':' && (atSpace rest || (flow && rest.head?.any fun d => ",[]\x7b\x7d".toList.contains d)) then 0
    else if flow && ",?[]\x7b\x7d".toList.contains c then 0
    else wordLength flow rest + 1

/-- The blanks and line ends between words: what the line ends stand for, and the cursor behind them. -/
def wordGap : (fuel : Nat) → Cursor → List Char → List Char × Cursor
  | 0, c, breaks => (breaks, c)
  | fuel + 1, c, breaks =>
    match c.peek with
    | some ' ' => wordGap fuel c.next breaks
    | some x =>
      if isBreak x then wordGap fuel c.next (breaks ++ [breakText x]) else (breaks, c)
    | none => (breaks, c)

/-- What stands between two words of a scalar without quotes, the cursor behind it and whether a line
ended. Nothing stands in front of a mark between documents. -/
def gap (c : Cursor) : List Char × Cursor × Bool :=
  let (blanks, behind) := c.takeWhile (· == ' ')
  match behind.peek with
  | some x =>
    if isBreak x then
      let (breaks, after) := wordGap behind.rest.length behind.next []
      if after.column == 0 && atDocumentMark after.rest then ([], after, true)
      else (foldBreaks (breakText x) breaks, after, true)
    else (blanks, behind, false)
  | none => (blanks, behind, false)

/-- A scalar without quotes: its text, the cursor behind it and whether a line ended behind its last word.
`indent` is the least column at which it goes on, inside brackets any. -/
def plainText (flow : Bool) (indent : Nat) : (fuel : Nat) → Cursor → List Char × Cursor × Bool
  | 0, c => ([], c, false)
  | fuel + 1, c =>
    let length := if c.peek == some '#' then 0 else wordLength flow c.rest
    if length = 0 then ([], c, false)
    else
      let word := c.rest.take length
      let (between, after, ended) := gap (c.skip length)
      if between.isEmpty || after.peek == some '#' || (!flow && after.column < indent) then
        (word, after, ended)
      else
        let (more, last, endedLater) := plainText flow indent fuel after
        if more.isEmpty then (word, last, ended) else (word ++ between ++ more, last, endedLater)

/-- The character that an escape of one letter stands for. -/
def escape? : Char → Option Char
  | '0' => some '\x00'
  | 'a' => some '\x07'
  | 'b' => some '\x08'
  | 't' | '\t' => some '\t'
  | 'n' => some '\n'
  | 'v' => some '\x0b'
  | 'f' => some '\x0c'
  | 'r' => some '\r'
  | 'e' => some '\x1b'
  | ' ' => some ' '
  | '"' => some '"'
  | '\\' => some '\\'
  | '/' => some '/'
  | 'N' => some '\x85'
  | '_' => some '\xa0'
  | 'L' => some '\u2028'
  | 'P' => some '\u2029'
  | _ => none

/-- How many hexadecimal digits follow the letter of an escape by number. -/
def escapeDigits? : Char → Option Nat
  | 'x' => some 2
  | 'u' => some 4
  | 'U' => some 8
  | _ => none

def hexNumber? (cs : List Char) : Option Nat :=
  cs.foldlM (fun n c => (Text.hexValue? c).map (16 * n + ·)) 0

/-- The blanks and line ends between the lines of a quoted scalar. -/
def quotedGap : (fuel : Nat) → Cursor → List Char → List Char × Cursor
  | 0, c, breaks => (breaks, c)
  | fuel + 1, c, breaks =>
    match c.peek with
    | some x =>
      if x == ' ' || x == '\t' then quotedGap fuel c.next breaks
      else if isBreak x then quotedGap fuel c.next (breaks ++ [breakText x])
      else (breaks, c)
    | none => (breaks, c)

/-- Whether a mark between documents stands at the start of this line. -/
def breaksOff (c : Cursor) : Bool :=
  c.column == 0 && atDocumentMark c.rest

/-- A scalar behind its opening quote, up to behind the closing one. -/
def quotedText (quote : Char) : (fuel : Nat) → Cursor → Option (List Char × Cursor)
  | 0, _ => none
  | fuel + 1, c => do
    match c.rest with
    | [] => none
    | x :: rest =>
      if x == quote then
        if quote == '\'' && rest.head? == some '\'' then
          let (more, last) ← quotedText quote fuel c.next.next
          return ('\'' :: more, last)
        else return ([], c.next)
      else if x == '\\' && quote == '"' then
        match rest with
        | [] => none
        | e :: digits =>
          match escape? e, escapeDigits? e with
          | some character, _ =>
            let (more, last) ← quotedText quote fuel c.next.next
            return (character :: more, last)
          | none, some count =>
            let taken := digits.take count
            if taken.length < count then none
            else
              let code ← hexNumber? taken
              let (more, last) ← quotedText quote fuel (c.skip (2 + count))
              return (Text.scalar code :: more, last)
          | none, none =>
            if isBreak e then
              let (breaks, after) := quotedGap rest.length c.next.next []
              if breaksOff after then none
              else
                let (more, last) ← quotedText quote fuel after
                return (breaks ++ more, last)
            else none
      else if isSpace x then
        let (blanks, behind) := c.takeWhile fun y => y == ' ' || y == '\t'
        match behind.peek with
        | none => none
        | some y =>
          if isBreak y then
            let (breaks, after) := quotedGap behind.rest.length behind.next []
            if breaksOff after then none
            else
              let (more, last) ← quotedText quote fuel after
              return (foldBreaks (breakText y) breaks ++ more, last)
          else
            let (more, last) ← quotedText quote fuel behind
            return (blanks ++ more, last)
      else
        let (more, last) ← quotedText quote fuel c.next
        return (x :: more, last)

/-- What becomes of the line ends behind a block scalar. -/
inductive Chomping
  | clip
  | strip
  | keep
  deriving DecidableEq, Repr

/-- The marks behind the sign of a block scalar: what becomes of its last line ends, and how deep it is
indented if that is told. -/
def blockHeader (c : Cursor) : Option (Chomping × Option Nat × Cursor) :=
  let chomp (x : Char) : Option Chomping :=
    if x == '+' then some .keep else if x == '-' then some .strip else none
  let depth (x : Char) : Option Nat :=
    if '1' ≤ x ∧ x ≤ '9' then some (x.toNat - '0'.toNat) else none
  match c.rest with
  | a :: b :: _ =>
    match chomp a, depth b, depth a, chomp b with
    | some k, some n, _, _ => some (k, some n, c.skip 2)
    | _, _, some n, some k => some (k, some n, c.skip 2)
    | some k, _, _, _ => some (k, none, c.next)
    | _, _, some n, _ => some (.clip, some n, c.next)
    | _, _, _, _ => if a == '0' then none else some (.clip, none, c)
  | [a] =>
    match chomp a, depth a with
    | some k, _ => some (k, none, c.next)
    | _, some n => some (.clip, some n, c.next)
    | _, _ => if a == '0' then none else some (.clip, none, c)
  | [] => some (.clip, none, c)

/-- The cursor at the end of the line, when only blanks and a comment stand before it. -/
def restOfLine (c : Cursor) : Option Cursor :=
  let (_, behind) := c.takeWhile (· == ' ')
  let (_, behind) := if behind.peek == some '#' then behind.takeWhile (!isBreak ·) else ([], behind)
  match behind.peek with
  | none => some behind
  | some x => if isBreak x then some behind.next else none

/-- Empty lines and the blanks in front of the first other line: what the line ends stand for, and the
greatest column reached. -/
def leadingLines : (fuel : Nat) → Cursor → List Char → (deepest : Nat) → List Char × Nat × Cursor
  | 0, c, breaks, deepest => (breaks, deepest, c)
  | fuel + 1, c, breaks, deepest =>
    match c.peek with
    | some ' ' => leadingLines fuel c.next breaks (max deepest c.next.column)
    | some x =>
      if isBreak x then leadingLines fuel c.next (breaks ++ [breakText x]) deepest
      else (breaks, deepest, c)
    | none => (breaks, deepest, c)

def emptyLines (depth : Nat) : (fuel : Nat) → Cursor → List Char → List Char × Cursor
  | 0, c, breaks => (breaks, c)
  | fuel + 1, c, breaks =>
    match c.peek with
    | some x =>
      if x == ' ' && c.column < depth then emptyLines depth fuel c.next breaks
      else if isBreak x then emptyLines depth fuel c.next (breaks ++ [breakText x])
      else (breaks, c)
    | none => (breaks, c)

/-- The lines of a block of a given depth: its text without the last line ends, those line ends, and the
cursor behind it. -/
def blockLines (folded : Bool) (depth : Nat) : (fuel : Nat) → Cursor → (breaks : List Char) →
    List Char × List Char × Cursor
  | 0, c, breaks => ([], breaks, c)
  | fuel + 1, c, breaks =>
    if c.column != depth || c.rest.isEmpty then ([], breaks, c)
    else
      let indented := c.peek == some ' ' || c.peek == some '\t'
      let (line, ending) := c.takeWhile (!isBreak ·)
      match ending.peek with
      | none => (breaks ++ line, [], ending)
      | some x =>
        let (empties, after) := emptyLines depth ending.rest.length ending.next []
        let goesOn := after.column == depth && !after.rest.isEmpty
        let nextIndented := after.peek == some ' ' || after.peek == some '\t'
        let lineEnd := breakText x
        if goesOn then
          let joint :=
            if folded && lineEnd == '\n' && !indented && !nextIndented then
              (if empties.isEmpty then [' '] else [])
            else [lineEnd]
          let (more, last, behind) := blockLines folded depth fuel after empties
          (breaks ++ line ++ joint ++ more, last, behind)
        else (breaks ++ line, lineEnd :: empties, after)

/-- A block scalar behind its sign. `indent` is the column of the collection that it stands in, counted
from one. -/
def blockText (folded : Bool) (indent : Nat) (c : Cursor) : Option (List Char × Cursor) := do
  let (chomping, told, c) ← blockHeader c
  unless atSpace c.rest do none
  let c ← restOfLine c
  let least := max 1 indent
  let (breaks, depth, start) := match told with
    | some n =>
      let depth := least + n - 1
      let (breaks, start) := emptyLines depth c.rest.length c []
      (breaks, depth, start)
    | none =>
      let (breaks, deepest, start) := leadingLines c.rest.length c [] 0
      (breaks, max least deepest, start)
  let (text, last, behind) := blockLines folded depth start.rest.length start breaks
  match chomping, last with
  | .strip, _ => return (text, behind)
  | .keep, last => return (text ++ last, behind)
  | .clip, [] => return (text, behind)
  | .clip, x :: _ =>
    return (if text.isEmpty && last.length = breaks.length then text else text ++ [x], behind)

end CodecReport.Yaml
