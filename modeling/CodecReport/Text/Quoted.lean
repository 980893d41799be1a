import CodecReport.Text.Printable

/-!
# Texts inside of others

Messages show a text between quotes on one line: backslashes, the quote itself, line ends, tabs and all
characters that are not printable are escaped. Single quotes are used, unless the text holds a single
quote and no double quote. Bytes are shown in the same way behind a letter, those outside ASCII by number.
Inside of a page the three characters that would be markup and the two quotes are written as references,
which `unescape` reads back.
-/

namespace CodecReport.Text

/-- The low `width` hexadecimal digits of a number, in small letters. -/
def hexDigits (width n : Nat) : List Char :=
  let digits := Nat.toDigits 16 n
  List.replicate (width - digits.length) '0' ++ digits

def quoteFor (cs : List Char) : Char :=
  if cs.contains '\'' && !cs.contains '"' then '"' else '\''

def quoteChar (quote c : Char) : List Char :=
  if c == quote || c == '\\' then ['\\', c]
  else if c == '\n' then ['\\', 'n']
  else if c == '\r' then ['\\', 'r']
  else if c == '\t' then ['\\', 't']
  else if isPrintable c then [c]
  else if c.toNat < 0x100 then '\\' :: 'x' :: hexDigits 2 c.toNat
  else if c.toNat < 0x10000 then '\\' :: 'u' :: hexDigits 4 c.toNat
  else '\\' :: 'U' :: hexDigits 8 c.toNat

def quoted (s : String) : String :=
  let cs := s.toList
  let quote := quoteFor cs
  String.ofList (quote :: cs.flatMap (quoteChar quote) ++ [quote])

/-- A byte as the character of its number inside quoted bytes. -/
def quoteByte (quote : Char) (byte : Nat) : List Char :=
  if byte < 0x80 then quoteChar quote (Char.ofNat byte) else '\\' :: 'x' :: hexDigits 2 byte

/-- Bytes between quotes, with their escapes, behind the letter that tells them from text. -/
def quotedBytes (bytes : List Nat) : String :=
  let quote := quoteFor (bytes.map Char.ofNat)
  String.ofList ('b' :: quote :: bytes.flatMap (quoteByte quote) ++ [quote])

/-! ### Pages -/

def escapeChar : Char → List Char
  | '&' => "&amp;".toList
  | '<' => "&lt;".toList
  | '>' => "&gt;".toList
  | '"' => "&quot;".toList
  | '\'' => "&#x27;".toList
  | c => [c]

/-- A text as it is written inside a page. -/
def escape (s : String) : String :=
  String.ofList (s.toList.flatMap escapeChar)

/-- Reads the references that `escape` writes. Escaped text has no others. -/
def unescapeChars : List Char → List Char
  | [] => []
  | '&' :: 'a' :: 'm' :: 'p' :: ';' :: rest => '&' :: unescapeChars rest
  | '&' :: 'l' :: 't' :: ';' :: rest => '<' :: unescapeChars rest
  | '&' :: 'g' :: 't' :: ';' :: rest => '>' :: unescapeChars rest
  | '&' :: 'q' :: 'u' :: 'o' :: 't' :: ';' :: rest => '"' :: unescapeChars rest
  | '&' :: '#' :: 'x' :: '2' :: '7' :: ';' :: rest => '\'' :: unescapeChars rest
  | c :: rest => c :: unescapeChars rest

def unescape (s : String) : String :=
  String.ofList (unescapeChars s.toList)

end CodecReport.Text
