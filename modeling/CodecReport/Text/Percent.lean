import CodecReport.Text.Encoding
import CodecReport.Text.Digit

/-!
# Percent encoding

The encoding of texts in a query: bytes of UTF-8 as `%XX` and blanks as `+`. Decoding works on each run of
ASCII characters on its own, so that characters beyond ASCII stand for themselves.
-/

namespace CodecReport.Text

def hexValue? (c : Char) : Option Nat :=
  if '0' ≤ c ∧ c ≤ '9' then some (c.toNat - '0'.toNat)
  else if 'a' ≤ c ∧ c ≤ 'f' then some (c.toNat - 'a'.toNat + 10)
  else if 'A' ≤ c ∧ c ≤ 'F' then some (c.toNat - 'A'.toNat + 10)
  else none

/-- The bytes that a run of ASCII characters stands for; a `%` without two hexadecimal digits is itself. -/
def percentBytes : List Char → List Nat
  | [] => []
  | '%' :: a :: b :: rest =>
    match hexValue? a, hexValue? b with
    | some high, some low => (16 * high + low) :: percentBytes rest
    | _, _ => '%'.toNat :: percentBytes (a :: b :: rest)
  | c :: rest => c.toNat :: percentBytes rest

/-- The text of a run of ASCII characters, its last character first. -/
def decodeRun (reversed : List Char) : List Char :=
  let bytes := percentBytes reversed.reverse
  decodeUtf8Leniently bytes.length bytes

/-- The text that an encoded text stands for, `run` being the ASCII characters just before, last one
first. -/
def percentDecodeFrom (run : List Char) : List Char → List Char
  | [] => decodeRun run
  | c :: rest =>
    if c.toNat < 128 then percentDecodeFrom (c :: run) rest
    else decodeRun run ++ c :: percentDecodeFrom [] rest

def unquotePlus (cs : List Char) : List Char :=
  percentDecodeFrom [] (cs.map fun c => if c = '+' then ' ' else c)

/-- Whether a character stands for itself in an encoded text. -/
def isUnreserved (c : Char) : Bool :=
  c.isAlphanum || c == '_' || c == '.' || c == '-' || c == '~'

def hexDigit (n : Nat) : Char :=
  if n < 10 then Char.ofNat ('0'.toNat + n) else Char.ofNat ('A'.toNat + (n - 10))

def percentByte (b : Nat) : List Char :=
  ['%', hexDigit (b / 16), hexDigit (b % 16)]

def quoteCharPlus (c : Char) : List Char :=
  if isUnreserved c then [c]
  else if c = ' ' then ['+']
  else (String.utf8EncodeChar c).flatMap fun b => percentByte b.toNat

def quotePlus (cs : List Char) : List Char :=
  cs.flatMap quoteCharPlus

end CodecReport.Text
