import CodecReport.Text.Digit
import CodecReport.Text.Split
import CodecReport.Text.Percent

/-!
# Hosts in brackets

The authority of an address may hold a numeric host between brackets: an address of the sixth version of
the protocol, or one of a future version marked by a `v`.
-/

namespace CodecReport

open Text

namespace Host

/-- A number from 0 to 255 in decimal digits, without zeros in front. -/
def isOctet (cs : List Char) : Bool :=
  !cs.isEmpty && cs.all isAsciiDigit && cs.length ≤ 3 && (cs.length == 1 || cs.head? != some '0')
    && digitsValue cs ≤ 255

def isFourPart (cs : List Char) : Bool :=
  let parts := splitAt '.' cs
  parts.length == 4 && parts.all isOctet

/-- One to four hexadecimal digits. -/
def isHextet (cs : List Char) : Bool :=
  !cs.isEmpty && cs.length ≤ 4 && cs.all fun c => (hexValue? c).isSome

/-- The parts between the colons, a last part of four numbers counting as two. -/
def colonParts (cs : List Char) : Option (List (List Char)) :=
  let parts := splitAt ':' cs
  match parts.getLast? with
  | some last =>
    if last.contains '.' then
      if isFourPart last then some (parts.dropLast ++ [['0'], ['0']]) else none
    else some parts
  | none => none

/-- Whether parts between colons write an address: eight of them, or fewer and one gap. A gap is an empty
part inside; at an end it takes the empty part of that end along. -/
def areGroups (parts : List (List Char)) : Bool :=
  let inner := (parts.drop 1).dropLast
  match inner.count [] with
  | 0 => parts.length == 8 && parts.all isHextet
  | 1 =>
    let before := parts.take (inner.idxOf [] + 1)
    let after := parts.drop (inner.idxOf [] + 2)
    let before := if before == [[]] then [] else before
    let after := if after == [[]] then [] else after
    before.length + after.length ≤ 7 && (before ++ after).all isHextet
  | _ => false

/-- Whether a text is an address of the sixth version; a zone may follow a percent sign. -/
def isSixPart (cs : List Char) : Bool :=
  let (address, zone) := cutAt '%' cs
  let zoneGood := match zone with
    | none => true
    | some z => !z.isEmpty && !z.contains '%'
  zoneGood && !cs.contains '/' && 3 ≤ (splitAt ':' address).length
    && (splitAt ':' address).length ≤ 9
    && match colonParts address with
      | some parts => areGroups parts
      | none => false

/-- Whether a text is an address of a future version: a `v`, hexadecimal digits, a point and more. -/
def isFuture (cs : List Char) : Bool :=
  match cutAt '.' (cs.drop 1) with
  | (version, some rest) =>
    !version.isEmpty && version.all (fun c => (hexValue? c).isSome) && !rest.isEmpty
      && !rest.contains '\n'
  | _ => false

end Host

end CodecReport
