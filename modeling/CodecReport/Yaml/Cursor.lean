/-!
# A place in a text that is read

What is left of a text with the line, column and offset where it starts. Lines end with a line feed or with
one of the separators of Unicode.
-/

namespace CodecReport.Yaml

/-- What is left of a text and where it starts. -/
structure Cursor where
  rest : List Char
  line : Nat := 0
  column : Nat := 0
  offset : Nat := 0

def isBreak (c : Char) : Bool :=
  c == '\n' || c == '\r' || c == '\x85' || c == '\u2028' || c == '\u2029'

def isSpace (c : Char) : Bool :=
  c == ' ' || c == '\t' || isBreak c

/-- Whether a text ends here or goes on with a character that separates words. -/
def atSpace : List Char → Bool
  | [] => true
  | c :: _ => isSpace c

/-- Whether a text goes on with a mark between documents: three hyphens or points, standing alone. -/
def atDocumentMark : List Char → Bool
  | '-' :: '-' :: '-' :: rest | '.' :: '.' :: '.' :: rest => atSpace rest
  | _ => false

namespace Cursor

def next (c : Cursor) : Cursor :=
  match c.rest with
  | [] => c
  | x :: rest =>
    if isBreak x then { rest, line := c.line + 1, column := 0, offset := c.offset + 1 }
    else { c with rest, column := c.column + 1, offset := c.offset + 1 }

def skip : (n : Nat) → Cursor → Cursor
  | 0, c => c
  | n + 1, c => skip n c.next

def peek (c : Cursor) : Option Char := c.rest.head?

/-- The characters of a class at the front, and the cursor behind them. -/
def takeWhile (p : Char → Bool) (c : Cursor) : List Char × Cursor :=
  let taken := c.rest.takeWhile p
  (taken, c.skip taken.length)

end Cursor

/-- The character that the end of a line stands for. -/
def breakText (c : Char) : Char :=
  if c == '\u2028' || c == '\u2029' then c else '\n'

/-- What several ends of lines in a row stand for: a single line feed is a space, of more the first one is
dropped, and other separators are kept. -/
def foldBreaks (first : Char) (more : List Char) : List Char :=
  if first != '\n' then first :: more
  else if more.isEmpty then [' '] else more

end CodecReport.Yaml
