import CodecReport.Text.Percent
import CodecReport.Value.Conversion

/-!
# Reading JSON

The documents are JSON with three additions: `NaN`, `Infinity` and `-Infinity` are numbers. A number with a
fraction or an exponent is a double, any other one an integer. Of a repeated key the first position and the
last value count; keys are told apart as texts of Unicode scalar values, with U+FFFD for every lone surrogate that
they escape. A reader takes what is left of the text and gives back what it leaves, so that the position of a fault
is the length of the text less what is left there.
-/

namespace CodecReport

open Text

inductive JsonCause
  | expectedValue
  | expectedName
  | expectedColon
  | expectedComma
  | extraData
  | unterminatedString
  | controlCharacter
  | badEscape
  | badUnicodeEscape
  | byteOrderMark
  deriving DecidableEq, Repr

/-- A place in a text: line and column count from one, the offset from zero. -/
structure TextPlace where
  line : Nat
  column : Nat
  offset : Nat
  deriving DecidableEq, Repr

/-- Why a document is not read: it is malformed at a place, or holds an integer or a nesting beyond the
reader's limits. -/
inductive JsonFault
  | malformed (cause : JsonCause) (place : TextPlace)
  | integerDigits (count : Nat)
  | tooDeep (inObject : Bool)
  deriving DecidableEq, Repr

namespace JsonCause

def message : JsonCause → String
  | .expectedValue => "Expecting value"
  | .expectedName => "Expecting property name enclosed in double quotes"
  | .expectedColon => "Expecting ':' delimiter"
  | .expectedComma => "Expecting ',' delimiter"
  | .extraData => "Extra data"
  | .unterminatedString => "Unterminated string starting at"
  | .controlCharacter => "Invalid control character at"
  | .badEscape => "Invalid \\escape"
  | .badUnicodeEscape => "Invalid \\uXXXX escape"
  | .byteOrderMark => "Unexpected UTF-8 BOM (decode using utf-8-sig)"

end JsonCause

namespace JsonFault

def message : JsonFault → String
  | .malformed cause place =>
    cause.message ++ ": line " ++ toString place.line ++ " column " ++ toString place.column
      ++ " (char " ++ toString place.offset ++ ")"
  | .integerDigits count => ConversionFault.digitLimitMessage count
  | .tooDeep inObject =>
    "maximum recursion depth exceeded while decoding a JSON "
      ++ (if inObject then "object" else "array") ++ " from a unicode string"

end JsonFault

def TextPlace.after (before : List Char) : TextPlace where
  line := before.count '\n' + 1
  column := (before.reverse.takeWhile (· != '\n')).length + 1
  offset := before.length

namespace Json

/-- A fault while reading, a malformed place being given by what is left of the text there. -/
inductive Halt
  | malformed (cause : JsonCause) (left : List Char)
  | integerDigits (count : Nat)
  | tooDeep (inObject : Bool)

/-- A reader takes what is left of the text and gives its result with the text that it leaves. -/
abbrev Reader (α : Type) := List Char → Except Halt (α × List Char)

def nestingLimit : Nat := 980

def isSpace (c : Char) : Bool :=
  c == ' ' || c == '\t' || c == '\n' || c == '\r'

def skipSpace (cs : List Char) : List Char :=
  cs.dropWhile isSpace

def hexUnit? (a b c d : Char) : Option Nat := do
  return 4096 * (← hexValue? a) + 256 * (← hexValue? b) + 16 * (← hexValue? c) + (← hexValue? d)

/-- The character that an escape of one letter stands for. -/
def escaped? : Char → Option Char
  | '"' => some '"'
  | '\\' => some '\\'
  | '/' => some '/'
  | 'b' => some '\x08'
  | 'f' => some '\x0c'
  | 'n' => some '\n'
  | 'r' => some '\r'
  | 't' => some '\t'
  | _ => none

/-- Reads a string behind its opening quote, as code units: an escape of a surrogate is a unit of its own.
`opening` is the text from the quote on. An escape by number is refused when the text ends with it. -/
def stringUnits (opening : List Char) : Reader (List Nat)
  | [] => .error (.malformed .unterminatedString opening)
  | '"' :: rest => .ok ([], rest)
  | ['\\'] => .error (.malformed .unterminatedString opening)
  | '\\' :: 'u' :: a :: b :: c :: d :: next :: rest =>
    match hexUnit? a b c d with
    | none => .error (.malformed .badUnicodeEscape ('u' :: a :: b :: c :: d :: next :: rest))
    | some code => do
      let (more, left) ← stringUnits opening (next :: rest)
      return (code :: more, left)
  | '\\' :: 'u' :: rest => .error (.malformed .badUnicodeEscape ('u' :: rest))
  | '\\' :: c :: rest =>
    match escaped? c with
    | none => .error (.malformed .badEscape ('\\' :: c :: rest))
    | some character => do
      let (more, left) ← stringUnits opening rest
      return (character.toNat :: more, left)
  | c :: rest =>
    if c.toNat < 0x20 then .error (.malformed .controlCharacter (c :: rest))
    else do
      let (more, left) ← stringUnits opening rest
      return (c.toNat :: more, left)

def readString : Reader String := fun afterQuote => do
  let (units, left) ← stringUnits ('"' :: afterQuote) afterQuote
  return (String.ofList (ofUnits units), left)

/-- The digits of the whole part at the front: a zero stands alone. -/
def wholeDigits (cs : List Char) : List Char :=
  match cs with
  | '0' :: _ => ['0']
  | _ => cs.takeWhile isAsciiDigit

/-- The digits behind a point at the front, and the text behind them; without a digit the point does not
belong to the number. -/
def fractionDigits (cs : List Char) : List Char × List Char :=
  match cs with
  | '.' :: rest =>
    let digits := rest.takeWhile isAsciiDigit
    if digits.isEmpty then ([], cs) else (digits, rest.dropWhile isAsciiDigit)
  | _ => ([], cs)

/-- The exponent at the front, and the text behind it; without a digit it does not belong to the number. -/
def exponentAt (cs : List Char) : Option Int × List Char :=
  match cs with
  | mark :: rest =>
    if mark == 'e' || mark == 'E' then
      let (negative, digits) := takeSign rest
      let taken := digits.takeWhile isAsciiDigit
      if taken.isEmpty then (none, cs)
      else (some (if negative then -(digitsValue taken : Int) else digitsValue taken),
        digits.dropWhile isAsciiDigit)
    else (none, cs)
  | [] => (none, cs)

def readNumber : Reader Value := fun cs =>
  let negative := cs.head? == some '-'
  let body := if negative then cs.drop 1 else cs
  let whole := wholeDigits body
  if whole.isEmpty then .error (.malformed .expectedValue cs)
  else
    let (fraction, afterFraction) := fractionDigits (body.drop whole.length)
    let (power, left) := exponentAt afterFraction
    if fraction.isEmpty && power.isNone then
      if integerDigitLimit < whole.length then .error (.integerDigits whole.length)
      else .ok (.int (if negative then -(digitsValue whole : Int) else digitsValue whole), left)
    else
      .ok (.float (Decimal.ofDigits negative whole fraction (power.getD 0)).toDouble, left)

def words : List (String × Value) :=
  [("null", .null), ("true", .bool true), ("false", .bool false), ("NaN", .float .nan),
   ("Infinity", .float (.infinite false)), ("-Infinity", .float (.infinite true))]

def readPlain : Reader Value := fun cs =>
  match words.find? fun (word, _) => word.toList.isPrefixOf cs with
  | some (word, value) => .ok (value, cs.drop word.toList.length)
  | none => match cs with
    | '"' :: rest => do
      let (s, left) ← readString rest
      return (.text s, left)
    | _ => readNumber cs

/-- Reads the members of an array from the first value on, up to behind the closing bracket. A member takes
a character at least, so the length of a text that ends with this one is fuel enough. -/
def readItems (element : Reader Value) : (fuel : Nat) → Reader (List Value)
  | 0, cs => .error (.malformed .expectedValue cs)
  | fuel + 1, cs => do
    let (value, left) ← element cs
    match skipSpace left with
    | ']' :: rest => return ([value], rest)
    | ',' :: rest =>
      let (more, left) ← readItems element fuel (skipSpace rest)
      return (value :: more, left)
    | other => throw (.malformed .expectedComma other)

/-- Reads the members of an object from the first name on, up to behind the closing brace. -/
def readMembers (element : Reader Value) : (fuel : Nat) → Reader (List (String × Value))
  | 0, cs => .error (.malformed .expectedName cs)
  | fuel + 1, cs =>
    match cs with
    | '"' :: afterQuote => do
      let (name, left) ← readString afterQuote
      match skipSpace left with
      | ':' :: rest =>
        let (value, left) ← element (skipSpace rest)
        match skipSpace left with
        | '\x7d' :: rest => return ([(name, value)], rest)
        | ',' :: rest =>
          let (more, left) ← readMembers element fuel (skipSpace rest)
          return ((name, value) :: more, left)
        | other => throw (.malformed .expectedComma other)
      | other => throw (.malformed .expectedColon other)
    | _ => .error (.malformed .expectedName cs)

/-- Reads a value that may nest at most `depth` arrays and objects. `size` is at least the length of the text. -/
def readValue (size : Nat) : (depth : Nat) → Reader Value
  | depth, '[' :: rest =>
    match depth with
    | 0 => .error (.tooDeep false)
    | depth + 1 =>
      match skipSpace rest with
      | ']' :: left => .ok (.list [], left)
      | body => do
        let (items, left) ← readItems (readValue size depth) (size + 1) body
        return (.list items, left)
  | depth, '\x7b' :: rest =>
    match depth with
    | 0 => .error (.tooDeep true)
    | depth + 1 =>
      match skipSpace rest with
      | '\x7d' :: left => .ok (.map [], left)
      | body => do
        let (members, left) ← readMembers (readValue size depth) (size + 1) body
        return (.map (Entries.ofList members), left)
  | _, cs => readPlain cs

def readAll (cs : List Char) : Except Halt Value := do
  let (value, left) ← readValue cs.length nestingLimit (skipSpace cs)
  let left := skipSpace left
  unless left.isEmpty do throw (.malformed .extraData left)
  return value

/-- The fault that a halted reader reports on a text. -/
def Halt.located (cs : List Char) : Halt → JsonFault
  | .malformed cause left => .malformed cause (.after (cs.take (cs.length - left.length)))
  | .integerDigits count => .integerDigits count
  | .tooDeep inObject => .tooDeep inObject

def decode (cs : List Char) : Except JsonFault Value :=
  (readAll cs).mapError (Halt.located cs)

/-- Reads a text as JSON. A text is told apart from its bytes, so that no mark of their order may stand at
its start. -/
def decodeText (cs : List Char) : Except JsonFault Value :=
  if cs.head? = some '\ufeff' then .error (Halt.located cs (.malformed .byteOrderMark cs)) else decode cs

end Json

end CodecReport
