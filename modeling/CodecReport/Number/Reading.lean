import CodecReport.Number.Decimal
import CodecReport.Text.Digit
import CodecReport.Text.Percent

/-!
# Reading numbers

Numerals as they stand in a text: blanks around them are dropped, digits of every script are digits, and a
single underscore may stand between two digits.
-/

namespace CodecReport

open Text

/-- The longest row of digits that is read as an integer. -/
def integerDigitLimit : Nat := 4300

/-- Whether an underscore of the text stands elsewhere than between two digits, `previous` being a digit
or not. -/
def misplacedUnderscore : (afterDigit : Bool) → List Char → Bool
  | _, [] => false
  | afterDigit, '_' :: rest =>
    !afterDigit || !(rest.head?.any isAsciiDigit) || misplacedUnderscore false rest
  | _, c :: rest => misplacedUnderscore (isAsciiDigit c) rest

def takeSign : List Char → Bool × List Char
  | '-' :: rest => (true, rest)
  | '+' :: rest => (false, rest)
  | cs => (false, cs)

namespace Decimal

/-- The decimal with the given digits before and after the point, times a power of ten. -/
def ofDigits (negative : Bool) (whole fraction : List Char) (power : Int) : Decimal :=
  ⟨negative, digitsValue (whole ++ fraction), power - fraction.length⟩

/-- The power of ten in an exponent mark such as `e-7`; nothing is the power zero. -/
def readPower? : List Char → Option Int
  | [] => some 0
  | mark :: rest =>
    let (negative, digits) := takeSign rest
    if (mark == 'e' || mark == 'E') && !digits.isEmpty && digits.all isAsciiDigit then
      some (if negative then -(digitsValue digits : Int) else digitsValue digits)
    else none

/-- A numeral without a sign: digits, with or without a point among them, and an exponent mark or none. -/
def readUnsigned? (negative : Bool) (cs : List Char) : Option Decimal :=
  let whole := cs.takeWhile isAsciiDigit
  let (fraction, rest) := match cs.dropWhile isAsciiDigit with
    | '.' :: more => (more.takeWhile isAsciiDigit, more.dropWhile isAsciiDigit)
    | more => ([], more)
  if whole.isEmpty && fraction.isEmpty then none
  else (readPower? rest).map (ofDigits negative whole fraction)

end Decimal

namespace Double

/-- The number that a word for an infinity, or for what is not a number, stands for. -/
def ofWord? (negative : Bool) (cs : List Char) : Option Double :=
  let word := String.ofList (cs.map Char.toLower)
  if word = "inf" ∨ word = "infinity" then some (.infinite negative)
  else if word = "nan" then some .nan
  else none

def ofText? (s : String) : Option Double :=
  let cs := plainNumeral s
  if misplacedUnderscore false cs then none
  else
    let (negative, body) := takeSign (cs.filter (· != '_'))
    match ofWord? negative body with
    | some d => some d
    | none => (Decimal.readUnsigned? negative body).map Decimal.toDouble

end Double

inductive IntegerFault
  | malformed
  | tooLong (digits : Nat)
  deriving DecidableEq, Repr

/-- Reads a text as an integer in base ten. That there are too many digits is seen before what follows
them. -/
def readInteger (s : String) : Except IntegerFault Int :=
  let (negative, body) := takeSign (plainNumeral s)
  let (row, rest) := body.span fun c => isAsciiDigit c || c == '_'
  let digits := row.filter (· != '_')
  if misplacedUnderscore false row then .error .malformed
  else if integerDigitLimit < digits.length then .error (.tooLong digits.length)
  else if row.isEmpty || !rest.isEmpty then .error .malformed
  else .ok (if negative then -(digitsValue digits : Int) else digitsValue digits)

/-- A base other than ten: the digits of its numerals and the letter that, behind a zero, may stand in front
of them. -/
structure Base where
  size : Nat
  mark : Char

namespace Base

def two : Base := ⟨2, 'b'⟩

def eight : Base := ⟨8, 'o'⟩

def sixteen : Base := ⟨16, 'x'⟩

/-- The digits behind the base's own mark, if it is there. -/
def unmarked (base : Base) : List Char → List Char
  | '0' :: letter :: digits => if letter.toLower = base.mark then digits else '0' :: letter :: digits
  | digits => digits

def readInteger? (base : Base) (s : String) : Option Int :=
  let (negative, body) := takeSign (plainNumeral s)
  let digits := base.unmarked body
  if !digits.isEmpty && digits.all fun c => (hexValue? c).any (· < base.size) then
    let value := digits.foldl (fun n c => base.size * n + (hexValue? c).getD 0) 0
    some (if negative then -(value : Int) else value)
  else none

end Base

end CodecReport
