import CodecReport.Number.Reading
import CodecReport.Value.Basic

/-!
# Numbers out of values

Options and configurations may hold any value where a number is meant. `Value.toDouble` and `Value.toInt`
take what can be taken as one and say why the rest cannot.
-/

namespace CodecReport

inductive ConversionFault
  /-- A value of this kind is no number. -/
  | notReal (kind : String)
  | notInteger (kind : String)
  /-- The text does not read as a number. -/
  | realText (s : String)
  | realBytes (content : List Nat)
  /-- The text does not read as an integer in a base. -/
  | integerText (base : Nat) (s : String)
  | integerBytes (content : List Nat)
  /-- The text has more digits than an integer may have. -/
  | integerDigits (count : Nat)
  /-- The integer exceeds every double. -/
  | integerTooLarge
  /-- What is not a number has no integer part. -/
  | integerOfNan
  | integerOfInfinity
  deriving DecidableEq, Repr

namespace ConversionFault

def digitLimitMessage (count : Nat) : String :=
  "Exceeds the limit (" ++ toString integerDigitLimit
    ++ " digits) for integer string conversion: value has " ++ toString count
    ++ " digits; use sys.set_int_max_str_digits() to increase the limit"

/-- The message for an integer that would be told in more digits than allowed. -/
def tooLongMessage : String :=
  "Exceeds the limit (" ++ toString integerDigitLimit
    ++ " digits) for integer string conversion; use sys.set_int_max_str_digits() to increase the limit"

/-- How much a message shows of what is no integer. -/
def shownLength : Nat := 200

/-- The message for what is no integer, as far as it shows it. -/
def noIntegerMessage (base : Nat) (quoted : String) : String :=
  "invalid literal for int() with base " ++ toString base ++ ": "
    ++ String.ofList (quoted.toList.take shownLength)

def message : ConversionFault → String
  | .notReal kind => "float() argument must be a string or a real number, not '" ++ kind ++ "'"
  | .notInteger kind =>
    "int() argument must be a string, a bytes-like object or a real number, not '" ++ kind ++ "'"
  | .realText s => "could not convert string to float: " ++ Text.quoted s
  | .realBytes content => "could not convert string to float: " ++ Text.quotedBytes content
  | .integerText base s => noIntegerMessage base (Text.quoted s)
  | .integerBytes content => noIntegerMessage 10 (Text.quotedBytes content)
  | .integerDigits count => digitLimitMessage count
  | .integerTooLarge => "int too large to convert to float"
  | .integerOfNan => "cannot convert float NaN to integer"
  | .integerOfInfinity => "cannot convert float infinity to integer"

end ConversionFault

def Double.ofInt? (i : Int) : Option Double :=
  if (Double.ofInt i).isFinite then some (Double.ofInt i) else none

def integerOfText (s : String) : Except ConversionFault Int :=
  match readInteger s with
  | .ok i => .ok i
  | .error .malformed => .error (.integerText 10 s)
  | .error (.tooLong count) => .error (.integerDigits count)

/-- The numeral that bytes spell. Only blanks that a keyboard has may stand around it. -/
def numeralOfBytes? (content : List Nat) : Option String :=
  if content.all fun byte => byte < 0x80 && !(0x1c ≤ byte && byte < 0x20) then
    some (String.ofList (content.map Char.ofNat))
  else none

namespace Value

def toDouble : Value → Except ConversionFault Double
  | .bool b => .ok (Double.ofInt (if b then 1 else 0))
  | .int i => match Double.ofInt? i with
    | some d => .ok d
    | none => .error .integerTooLarge
  | .float d => .ok d
  | .text s => match Double.ofText? s with
    | some d => .ok d
    | none => .error (.realText s)
  | .bytes content => match (numeralOfBytes? content).bind Double.ofText? with
    | some d => .ok d
    | none => .error (.realBytes content)
  | v => .error (.notReal v.kindName)

/-- A value as an integer: the fraction of a number is dropped. -/
def toInt : Value → Except ConversionFault Int
  | .bool b => .ok (if b then 1 else 0)
  | .int i => .ok i
  | .float .nan => .error .integerOfNan
  | .float d => match d.truncate? with
    | some i => .ok i
    | none => .error .integerOfInfinity
  | .text s => integerOfText s
  | .bytes content => match (numeralOfBytes? content).map readInteger with
    | some (.ok i) => .ok i
    | some (.error (.tooLong count)) => .error (.integerDigits count)
    | _ => .error (.integerBytes content)
  | v => .error (.notInteger v.kindName)

end Value

end CodecReport
