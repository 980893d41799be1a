import CodecReport.Number.Decimal

/-!
# How numbers are written

`Double.text` writes the fewest digits that read back. `Double.fixed2` writes exactly two places of the
exact binary value, ties to even. `Double.toHundredths?` rounds to hundredths what `Double.text` would
write, a half away from zero, so 1.005 becomes 1.01.
-/

namespace CodecReport

/-- Numbers from `10 ^ firstPositional` and below `10 ^ firstExponential` are written without an
exponent. -/
def firstPositional : Int := -4

/-- Numbers from `10 ^ firstExponential` are written with an exponent. -/
def firstExponential : Int := 16

def decimalDigits (n : Nat) : List Char :=
  Nat.toDigits 10 n

def signed (negative : Bool) (cs : List Char) : List Char :=
  if negative then '-' :: cs else cs

/-- The exponent mark, with a sign and at least two digits. -/
def exponentMark (power : Int) : List Char :=
  let digits := decimalDigits power.natAbs
  'e' :: (if power < 0 then '-' else '+') :: (List.replicate (2 - digits.length) '0' ++ digits)

/-- The digits of a numeral without an exponent, `power` being the power of ten of the first one: there
is a digit at least on both sides of the point. -/
def positional (digits : List Char) (power : Int) : List Char :=
  if power < 0 then '0' :: '.' :: (List.replicate (-power - 1).toNat '0' ++ digits)
  else
    let whole := power.toNat + 1
    let padded := digits ++ List.replicate (whole + 1 - digits.length) '0'
    padded.take whole ++ '.' :: padded.drop whole

def exponential (digits : List Char) (power : Int) : List Char :=
  match digits with
  | [] => []
  | [digit] => digit :: exponentMark power
  | digit :: more => digit :: '.' :: (more ++ exponentMark power)

def Decimal.numeral (d : Decimal) : List Char :=
  let digits := decimalDigits d.coefficient
  let power := d.exponent + digits.length - 1
  signed d.negative <|
    if firstPositional ≤ power && power < firstExponential then positional digits power
    else exponential digits power

namespace Double

def nonFiniteText : Double → String
  | .infinite true => "-inf"
  | .infinite false => "inf"
  | _ => "nan"

/-- The fewest digits that read back as the number; whole numbers show `.0`. -/
def text : Double → String
  | .finite negative units _ => String.ofList (shortest negative units).numeral
  | d => d.nonFiniteText

/-- The most digits that a number of hundredths may have. -/
def hundredthsPrecision : Nat := 28

/-- The number rounded to hundredths, on its shortest decimal and a half away from zero. There is none
when the hundredths have more than `hundredthsPrecision` digits; numbers that are not finite stay. -/
def toHundredths? : Double → Option Double
  | .finite negative units _ =>
    let count := (shortest negative units).hundredths
    if hundredthsPrecision < digitCount count then none
    else some (Decimal.toDouble ⟨negative, count, -2⟩)
  | d => some d

/-- The exact value of a finite number with two places, ties to even. -/
def fixed2 : Double → String
  | .finite negative units _ =>
    let count := roundDiv .toEven (units * 100) unitsPerOne
    let cents := decimalDigits (count % 100)
    String.ofList (signed negative
      (decimalDigits (count / 100) ++ '.' :: (List.replicate (2 - cents.length) '0' ++ cents)))
  | d => d.nonFiniteText

end Double

end CodecReport
