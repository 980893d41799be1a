import CodecReport.Number.Reading
import CodecReport.Text.Percent
import CodecReport.Text.Split
import CodecReport.Yaml.Tag
import CodecReport.Yaml.Timestamp

/-!
# What plain scalars are read as

A scalar without quotes is a truth value, an integer, a number with a point, a date, nothing at all, or else
its own text. Integers may be written in base two, eight, ten and sixteen, and in groups of base sixty between
colons; underscores among the digits mean nothing. A line feed at the end of a text changes nothing about
what it is read as.
-/

namespace CodecReport.Yaml

open Text

/-- The truth value that a word stands for, in small letters. -/
def truthOf? (word : String) : Option Bool :=
  if ["yes", "true", "on"].contains word then some true
  else if ["no", "false", "off"].contains word then some false
  else none

/-- Whether a word is in small letters, in capitals, or starts with its only capital. -/
def isEvenlyCased (cs : List Char) : Bool :=
  cs.all Char.isLower || cs.all Char.isUpper ||
    (cs.head?.any Char.isUpper && cs.tail.all Char.isLower)

def isTruthWord (cs : List Char) : Bool :=
  isEvenlyCased cs && (truthOf? (String.ofList (cs.map Char.toLower))).isSome

def isDigitOrUnderscore (c : Char) : Bool :=
  isAsciiDigit c || c == '_'

/-- Whether there are characters, all of a class. -/
def someAll (p : Char → Bool) (cs : List Char) : Bool :=
  !cs.isEmpty && cs.all p

/-- Whether digits are a group of base sixty: one or two, the first of two below six. -/
def isSixtieth : List Char → Bool
  | [a] => isAsciiDigit a
  | [a, b] => isAsciiDigit a && a ≤ '5' && isAsciiDigit b
  | _ => false

/-- Whether a text without a sign is written as an integer. -/
def isIntegerBody : List Char → Bool
  | [] => false
  | ['0'] => true
  | '0' :: 'b' :: rest => someAll (fun c => c == '0' || c == '1' || c == '_') rest
  | '0' :: 'x' :: rest => someAll (fun c => (hexValue? c).isSome || c == '_') rest
  | '0' :: rest => rest.all fun c => ('0' ≤ c && c ≤ '7') || c == '_'
  | c :: rest =>
    match splitAt ':' rest with
    | first :: more => isAsciiDigit c && first.all isDigitOrUnderscore && more.all isSixtieth
    | [] => false

/-- Whether a text is an exponent mark with a sign, or nothing. -/
def isSignedPower : List Char → Bool
  | [] => true
  | mark :: sign :: digits =>
    (mark == 'e' || mark == 'E') && (sign == '+' || sign == '-') && someAll isAsciiDigit digits
  | _ => false

/-- Whether a text without a sign is written as a number with a point. -/
def isPointedBody (signed : Bool) (cs : List Char) : Bool :=
  let whole := cs.takeWhile (· != '.')
  match cs.dropWhile (· != '.') with
  | [] => false
  | _ :: after =>
    let power := after.dropWhile isDigitOrUnderscore
    match whole with
    | [] => !signed && after.head?.any isAsciiDigit && isSignedPower power
    | first :: rest =>
      match splitAt ':' rest with
      | [] => false
      | group :: more =>
        isAsciiDigit first && group.all isDigitOrUnderscore && more.all isSixtieth &&
          (if more.isEmpty then isSignedPower power else power.isEmpty)

/-- Whether a text without a sign is a word for an infinity or for what is not a number. -/
def isNonFiniteBody (signed : Bool) (cs : List Char) : Bool :=
  match cs with
  | '.' :: word =>
    ["inf", "Inf", "INF"].contains (String.ofList word)
      || (!signed && ["nan", "NaN", "NAN"].contains (String.ofList word))
  | _ => false

def isNothing (text core : String) : Bool :=
  text = "" || ["~", "null", "Null", "NULL"].contains core

/-- What a plain scalar is read as. -/
def plainTag (text : String) : Tag :=
  let cs := dropFinalLineFeed text.toList
  let core := String.ofList cs
  let body := (takeSign cs).2
  let signed := body.length < cs.length
  if isTruthWord cs then .bool
  else if isPointedBody signed body || isNonFiniteBody signed body then .float
  else if isIntegerBody body then .int
  else if core = "<<" then .merge
  else if isNothing text core then .null
  else if (Timestamp.ofChars? cs).any (·.isPlain) then .timestamp
  else if core = "=" then .default
  else if ["!", "&", "*"].contains core then .unknown
  else .text

end CodecReport.Yaml
