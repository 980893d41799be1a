import CodecReport.Text.Base64
import CodecReport.Text.Casing
import CodecReport.Value.Conversion
import CodecReport.Yaml.Plain

/-!
# Values of scalars

The value of a text under its tag. Where the tag is written out the text need not look like it: numbers are
then read as freely as anywhere else, and what cannot be read is a fault of its own kind.
-/

namespace CodecReport.Yaml

open Text

inductive ReadFault
  /-- The text is no configuration text, or a tag does not fit its node. -/
  | malformed
  | conversion (fault : ConversionFault)
  | calendar (fault : CalendarFault)
  /-- There is nothing where a number's sign or first digit is looked for. -/
  | emptyNumber
  /-- The word is none for a truth value. -/
  | noTruth (word : String)
  /-- The text is no date and no time. -/
  | noTimestamp

namespace ReadFault

def message : ReadFault → String
  | .malformed => "<yaml error>"
  | .conversion fault => fault.message
  | .calendar fault => fault.message
  | .emptyNumber => "string index out of range"
  | .noTruth word => quoted word
  | .noTimestamp => "'NoneType' object has no attribute 'groupdict'"

end ReadFault

/-- The sign of a number, which is looked for in front, and what it stands in front of. -/
def signedBody (cs : List Char) : Except ReadFault (Bool × List Char) :=
  match cs.filter (· != '_') with
  | [] => .error .emptyNumber
  | first :: rest => .ok (takeSign (first :: rest))

/-- The integer that a text writes in a base other than ten. -/
def integerIn (base : Base) (cs : List Char) : Except ReadFault Int :=
  match base.readInteger? (String.ofList cs) with
  | some i => .ok i
  | none => .error (.conversion (.integerText base.size (String.ofList cs)))

def integerInTen (cs : List Char) : Except ReadFault Int :=
  (integerOfText (String.ofList cs)).mapError .conversion

def integerBody (cs : List Char) : Except ReadFault Int :=
  match cs with
  | [] => .error .emptyNumber
  | ['0'] => .ok 0
  | '0' :: 'b' :: digits => integerIn .two digits
  | '0' :: 'x' :: digits => integerIn .sixteen digits
  | '0' :: _ => integerIn .eight cs
  | _ => do
    let groups ← (splitAt ':' cs).mapM integerInTen
    return groups.foldl (fun n group => 60 * n + group) 0

def integer (cs : List Char) : Except ReadFault Int := do
  let (negative, body) ← signedBody cs
  let i ← integerBody body
  return if negative then -i else i

/-- The number with a point that a text writes. -/
def realPart (cs : List Char) : Except ReadFault Double :=
  match Double.ofText? (String.ofList cs) with
  | some d => .ok d
  | none => .error (.conversion (.realText (String.ofList cs)))

/-- The sum of groups of base sixty, the last one first; `weight` is what a one in the first of them is
worth. -/
def sumGroups (weight : Int) (sum : Double) : List Double → Except ReadFault Double
  | [] => .ok sum
  | d :: rest =>
    match Double.ofInt? weight with
    | none => .error (.conversion .integerTooLarge)
    | some w => sumGroups (60 * weight) (sum + d * w) rest

/-- The number with a point that a text writes, its letters small. -/
def real (cs : List Char) : Except ReadFault Double := do
  let (negative, body) ← signedBody cs
  let signed (d : Double) : Double := if negative then -d else d
  if body = ['.', 'i', 'n', 'f'] then return .infinite negative
  else if body = ['.', 'n', 'a', 'n'] then return .nan
  else if body.contains ':' then
    return signed (← sumGroups 1 Double.zero (← (splitAt ':' body).mapM realPart).reverse)
  else return signed (← realPart body)

def timestamp (cs : List Char) : Except ReadFault Value :=
  match Timestamp.ofChars? (dropFinalLineFeed cs) with
  | none => .error .noTimestamp
  | some t =>
    match t.time with
    | none => ((Date.ofNumbers t.year t.month t.day).map .date).mapError .calendar
    | some time =>
      ((Moment.ofNumbers t.year t.month t.day time.hour time.minute time.second
        (Timestamp.microseconds time.fraction) time.offset).map .moment).mapError .calendar

def bytes (cs : List Char) : Except ReadFault Value :=
  match if isAscii cs then decodeBase64? cs else none with
  | some content => .ok (.bytes content)
  | none => .error .malformed

def scalarValue (tag : Tag) (s : String) : Except ReadFault Value :=
  match tag with
  | .text => .ok (.text s)
  | .null => .ok .null
  | .bool =>
    let word := lower s
    match truthOf? word with
    | some b => .ok (.bool b)
    | none => .error (.noTruth word)
  | .int => (integer s.toList).map .int
  | .float => (real (lower s).toList).map .float
  | .timestamp => timestamp s.toList
  | .bytes => bytes s.toList
  | _ => .error .malformed

end CodecReport.Yaml
