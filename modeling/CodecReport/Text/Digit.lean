/-!
# Blanks and decimal digits

The white space of Unicode may stand around a number; that of ASCII is a smaller class with its own test, because a
text of ASCII characters alone is judged by that one. Every script's decimal digits stand in ten consecutive code
points, so the table of digits holds the zeros.
-/

namespace CodecReport.Text

/-! ### Blanks -/

/-- The code points of white space. -/
def blanks : List Nat :=
  [
   0x9, 0xa, 0xb, 0xc, 0xd, 0x1c, 0x1d, 0x1e, 0x1f, 0x20, 0x85, 0xa0, 0x1680, 0x2000, 0x2001,
   0x2002, 0x2003, 0x2004, 0x2005, 0x2006, 0x2007, 0x2008, 0x2009, 0x200a, 0x2028, 0x2029, 0x202f,
   0x205f, 0x3000]

def isBlank (c : Char) : Bool :=
  blanks.contains c.toNat

/-- Whether a character is one of the six blanks of ASCII. -/
def isAsciiBlank (c : Char) : Bool :=
  c == ' ' || (9 ≤ c.toNat && c.toNat ≤ 13)

def isAscii (cs : List Char) : Bool :=
  cs.all fun c => c.toNat < 128

/-- The text without the characters of a class at its two ends. -/
def trimBy (drop : Char → Bool) (cs : List Char) : List Char :=
  ((cs.dropWhile drop).reverse.dropWhile drop).reverse

/-! ### Digits -/

/-- The code points of the zeros of all scripts. -/
def zeros : List Nat :=
  [
   0x30, 0x660, 0x6f0, 0x7c0, 0x966, 0x9e6, 0xa66, 0xae6, 0xb66, 0xbe6, 0xc66, 0xce6, 0xd66, 0xde6,
   0xe50, 0xed0, 0xf20, 0x1040, 0x1090, 0x17e0, 0x1810, 0x1946, 0x19d0, 0x1a80, 0x1a90, 0x1b50,
   0x1bb0, 0x1c40, 0x1c50, 0xa620, 0xa8d0, 0xa900, 0xa9d0, 0xa9f0, 0xaa50, 0xabf0, 0xff10, 0x104a0,
   0x10d30, 0x11066, 0x110f0, 0x11136, 0x111d0, 0x112f0, 0x11450, 0x114d0, 0x11650, 0x116c0,
   0x11730, 0x118e0, 0x11950, 0x11c50, 0x11d50, 0x11da0, 0x16a60, 0x16ac0, 0x16b50, 0x1d7ce,
   0x1d7d8, 0x1d7e2, 0x1d7ec, 0x1d7f6, 0x1e140, 0x1e2f0, 0x1e950, 0x1fbf0]

def digitValue? (c : Char) : Option Nat :=
  (zeros.find? fun first => first ≤ c.toNat && c.toNat < first + 10).map fun first => c.toNat - first

def isAsciiDigit (c : Char) : Bool :=
  '0' ≤ c && c ≤ '9'

/-- The value of a row of the digits `0` to `9`, the first one leading. -/
def digitsValue (cs : List Char) : Nat :=
  cs.foldl (fun value c => 10 * value + (c.toNat - '0'.toNat)) 0

/-- A character as a numeral is read: a digit of any script is that digit, white space is a space, and any
other character outside ASCII is one that no numeral holds. -/
def plainChar (c : Char) : Char :=
  if c.toNat < 127 then c
  else if isBlank c then ' '
  else match digitValue? c with
    | some value => Char.ofNat ('0'.toNat + value)
    | none => '?'

/-- The characters of a numeral, in ASCII and without the blanks around them. -/
def plainNumeral (s : String) : List Char :=
  let cs := if isAscii s.toList then s.toList else s.toList.map plainChar
  trimBy isAsciiBlank cs

end CodecReport.Text
