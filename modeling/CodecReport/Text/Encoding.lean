/-!
# Encodings

A document arrives as bytes in UTF-8, UTF-16 or UTF-32. A byte order mark tells which, and without one the
zeros among the first four bytes do, since a document starts with two characters of ASCII. Decoding stops
at the first byte that rules the encoding out and says how far the faulty sequence reaches. An encoded
surrogate stands for no character and reads as U+FFFD.
-/

namespace CodecReport.Text

-- powers are those of the core library, whatever else is imported
attribute [local instance (2000)] instPowNat

inductive Encoding
  | utf8
  | utf16 (bigEndian : Bool)
  | utf32 (bigEndian : Bool)
  deriving DecidableEq, Repr

namespace Encoding

def name : Encoding → String
  | .utf8 => "utf-8"
  | .utf16 bigEndian => if bigEndian then "utf-16-be" else "utf-16-le"
  | .utf32 bigEndian => if bigEndian then "utf-32-be" else "utf-32-le"

end Encoding

inductive EncodingCause
  | invalidStart
  | invalidContinuation
  | unexpectedEnd
  | truncated
  | outOfRange
  deriving DecidableEq, Repr

/-- A sequence of bytes that is no character: where it starts, its bytes and what is wrong. -/
structure EncodingFault where
  encoding : Encoding
  start : Nat
  bytes : List Nat
  cause : EncodingCause
  deriving DecidableEq, Repr

/-- Bytes as numbers. -/
def bytesOf (content : ByteArray) : List Nat :=
  content.data.toList.map UInt8.toNat

namespace EncodingFault

def reason : EncodingCause → String
  | .invalidStart => "invalid start byte"
  | .invalidContinuation => "invalid continuation byte"
  | .unexpectedEnd => "unexpected end of data"
  | .truncated => "truncated data"
  | .outOfRange => "code point not in range(0x110000)"

def byteText (b : Nat) : String :=
  String.ofList (['0', 'x'] ++ (if b < 16 then ['0'] else []) ++ Nat.toDigits 16 b)

def message (f : EncodingFault) : String :=
  let what := match f.bytes with
    | [b] => "byte " ++ byteText b ++ " in position " ++ toString f.start
    | bytes => "bytes in position " ++ toString f.start ++ "-"
        ++ toString (f.start + bytes.length - 1)
  "'" ++ f.encoding.name ++ "' codec can't decode " ++ what ++ ": " ++ reason f.cause

end EncodingFault

/-- A code point as a character. Characters are Unicode scalar values, so a surrogate that stands alone, as the escapes
of a document can spell it, becomes U+FFFD: texts that differ in lone surrogates only are the same text here, and keys
that do so are one key. -/
def scalar (code : Nat) : Char :=
  if h : code.isValidChar then Char.ofNatAux code h else '\ufffd'

/-- For the first byte of a character of several bytes in UTF-8: how many bytes follow, and the range of
the first of them. -/
def leadByte? (b : Nat) : Option (Nat × Nat × Nat) :=
  if 0xC2 ≤ b ∧ b ≤ 0xDF then some (1, 0x80, 0xBF)
  else if b = 0xE0 then some (2, 0xA0, 0xBF)
  else if b = 0xED then some (2, 0x80, 0x9F)
  else if 0xE1 ≤ b ∧ b ≤ 0xEF then some (2, 0x80, 0xBF)
  else if b = 0xF0 then some (3, 0x90, 0xBF)
  else if 0xF1 ≤ b ∧ b ≤ 0xF3 then some (3, 0x80, 0xBF)
  else if b = 0xF4 then some (3, 0x80, 0x8F)
  else none

def isContinuation (b : Nat) : Bool :=
  0x80 ≤ b && b ≤ 0xBF

/-- The bytes at the front that can follow a first byte: at most `count`, the first of them between `low`
and `high`. -/
def followers (count low high : Nat) : List Nat → List Nat
  | [] => []
  | b :: rest =>
    if 0 < count && low ≤ b && b ≤ high then
      b :: (rest.take (count - 1)).takeWhile isContinuation
    else []

/-- The code point of a character of several bytes in UTF-8, `payload` being the bits of the first one. -/
def joinBytes (payload : Nat) (more : List Nat) : Nat :=
  more.foldl (fun code b => 64 * code + (b - 0x80)) payload

/-- The bits of a code point that a first byte holds. -/
def leadPayload (count b : Nat) : Nat :=
  b % 2 ^ (6 - count)

/-- The character at the front of a text in UTF-8 that starts with the byte `b`: its code point and the
bytes that follow `b` in it, or the bytes that make no character and what is wrong with them. -/
def utf8Step (b : Nat) (rest : List Nat) : Except (List Nat × EncodingCause) (Nat × List Nat) :=
  if b < 0x80 then .ok (b, [])
  else match leadByte? b with
    | none => .error ([b], .invalidStart)
    | some (count, low, high) =>
      let more := followers count low high rest
      if more.length = count then .ok (joinBytes (leadPayload count b) more, more)
      else if rest.length = more.length then .error (b :: more, .unexpectedEnd)
      else .error (b :: more, .invalidContinuation)

/-- The two bytes behind `b` that complete an encoded surrogate. -/
def surrogateTail? (b : Nat) (rest : List Nat) : Option (List Nat) :=
  let more := followers 2 0xA0 0xBF rest
  if b = 0xED ∧ more.length = 2 then some more else none

/-- Decodes UTF-8, `start` being the position of the first byte and `fuel` a bound on the number of
characters. With `surrogates` an encoded surrogate is read, as U+FFFD, and without it no text holds one. -/
def decodeUtf8 (surrogates : Bool) : (fuel start : Nat) → List Nat → Except EncodingFault (List Char)
  | 0, _, _ | _, _, [] => .ok []
  | fuel + 1, start, b :: rest =>
    let accept (code : Nat) (more : List Nat) : Except EncodingFault (List Char) := do
      return scalar code :: (← decodeUtf8 surrogates fuel (start + 1 + more.length) (rest.drop more.length))
    match utf8Step b rest with
    | .ok (code, more) => accept code more
    | .error (bytes, cause) =>
      match if surrogates then surrogateTail? b rest else none with
      | some more => accept 0xFFFD more
      | none => .error ⟨.utf8, start, bytes, cause⟩

/-- Decodes UTF-8, each sequence of bytes that makes no character reading as U+FFFD. -/
def decodeUtf8Leniently : (fuel : Nat) → List Nat → List Char
  | 0, _ | _, [] => []
  | fuel + 1, b :: rest =>
    match utf8Step b rest with
    | .ok (code, more) => scalar code :: decodeUtf8Leniently fuel (rest.drop more.length)
    | .error (bytes, _) => '\ufffd' :: decodeUtf8Leniently fuel (rest.drop (bytes.length - 1))

def unit16 (bigEndian : Bool) (a b : Nat) : Nat :=
  if bigEndian then 256 * a + b else 256 * b + a

def isHighSurrogate (code : Nat) : Bool :=
  0xD800 ≤ code && code ≤ 0xDBFF

def isLowSurrogate (code : Nat) : Bool :=
  0xDC00 ≤ code && code ≤ 0xDFFF

def joinSurrogates (high low : Nat) : Nat :=
  0x10000 + 0x400 * (high - 0xD800) + (low - 0xDC00)

/-- The characters of units of 16 bits: a high surrogate joins a low one behind it. -/
def ofUnits : List Nat → List Char
  | [] => []
  | [code] => [scalar code]
  | high :: low :: rest =>
    if isHighSurrogate high && isLowSurrogate low then scalar (joinSurrogates high low) :: ofUnits rest
    else scalar high :: ofUnits (low :: rest)

def units16 (bigEndian : Bool) (start : Nat) : List Nat → Except EncodingFault (List Nat)
  | [] => .ok []
  | [b] => .error ⟨.utf16 bigEndian, start, [b], .truncated⟩
  | a :: b :: rest => do return unit16 bigEndian a b :: (← units16 bigEndian (start + 2) rest)

def decodeUtf32 (bigEndian : Bool) (start : Nat) : List Nat → Except EncodingFault (List Char)
  | [] => .ok []
  | a :: b :: c :: d :: rest => do
    let code :=
      if bigEndian then 65536 * unit16 true a b + unit16 true c d
      else 65536 * unit16 false c d + unit16 false a b
    if 0x10FFFF < code then throw ⟨.utf32 bigEndian, start, [a, b, c, d], .outOfRange⟩
    return scalar code :: (← decodeUtf32 bigEndian (start + 4) rest)
  | bytes => .error ⟨.utf32 bigEndian, start, bytes, .truncated⟩

/-- The encoding of a document, and the length of its byte order mark. -/
def detectEncoding : List Nat → Encoding × Nat
  | 0 :: 0 :: 0xFE :: 0xFF :: _ => (.utf32 true, 4)
  | 0xFF :: 0xFE :: 0 :: 0 :: _ => (.utf32 false, 4)
  | 0xFE :: 0xFF :: _ => (.utf16 true, 2)
  | 0xFF :: 0xFE :: _ => (.utf16 false, 2)
  | 0xEF :: 0xBB :: 0xBF :: _ => (.utf8, 3)
  | a :: b :: c :: d :: _ =>
    if a = 0 then (if b = 0 then .utf32 true else .utf16 true, 0)
    else if b = 0 then (if c = 0 ∧ d = 0 then .utf32 false else .utf16 false, 0)
    else (.utf8, 0)
  | [a, b] => (if a = 0 then .utf16 true else if b = 0 then .utf16 false else .utf8, 0)
  | _ => (.utf8, 0)

/-- The characters of a document. In UTF-8 positions count from behind the byte order mark, in the other
encodings from the first byte. -/
def decodeBytes (bytes : List Nat) : Except EncodingFault (List Char) :=
  let (encoding, mark) := detectEncoding bytes
  let body := bytes.drop mark
  match encoding with
  | .utf8 => decodeUtf8 true body.length 0 body
  | .utf16 bigEndian => (units16 bigEndian mark body).map ofUnits
  | .utf32 bigEndian => decodeUtf32 bigEndian mark body

end CodecReport.Text
