import CodecReport.Calendar
import CodecReport.Text.Digit

/-!
# Dates and times as they are written

A date is a year of four digits, a month and a day with hyphens between them. A time may follow it behind a
`T` or blanks, with a fraction of its second, and a mark that tells how far it is ahead of universal time.
-/

namespace CodecReport.Yaml

-- powers are those of the core library, whatever else is imported
attribute [local instance (2000)] instPowNat

open Text

structure TimeText where
  hour : Nat
  minute : Nat
  second : Nat
  fraction : List Char
  offset : Option Int

/-- A date as it is written, and the time behind it if there is one. `wide` tells whether month and day have
two digits each. -/
structure Timestamp where
  year : Nat
  month : Nat
  day : Nat
  wide : Bool
  time : Option TimeText

namespace Timestamp

/-- The one or two digits at the front, and the rest. -/
def shortNumber? : List Char → Option (List Char × List Char)
  | a :: b :: rest =>
    if !isAsciiDigit a then none
    else if isAsciiDigit b then some ([a, b], rest) else some ([a], b :: rest)
  | [a] => if isAsciiDigit a then some ([a], []) else none
  | [] => none

/-- The given count of digits at the front, and the rest. -/
def fixedNumber? (count : Nat) (cs : List Char) : Option (List Char × List Char) :=
  let digits := cs.take count
  if digits.length = count && digits.all isAsciiDigit then some (digits, cs.drop count) else none

def behind? (mark : Char) : List Char → Option (List Char)
  | c :: rest => if c = mark then some rest else none
  | [] => none

def isStampBlank (c : Char) : Bool :=
  c == ' ' || c == '\t'

/-- The minutes ahead of universal time that the end of a text tells; none inside when it tells nothing. -/
def offset? (cs : List Char) : Option (Option Int) :=
  match cs.dropWhile isStampBlank with
  | [] => if cs.isEmpty then some none else none
  | ['Z'] => some (some 0)
  | sign :: rest =>
    if sign != '+' && sign != '-' then none
    else do
      let (hours, rest) ← shortNumber? rest
      let minutes ← match rest with
        | [] => some 0
        | ':' :: rest => do
          let (minutes, rest) ← fixedNumber? 2 rest
          if rest.isEmpty then some (digitsValue minutes) else none
        | _ => none
      let span : Nat := 60 * digitsValue hours + minutes
      return some (if sign = '-' then -(span : Int) else span)

/-- What stands behind the sign between a date and a time. -/
def timeStart? : List Char → Option (List Char)
  | [] => none
  | c :: rest =>
    if c == 'T' || c == 't' then some rest
    else if isStampBlank c then some (rest.dropWhile isStampBlank)
    else none

def time? (cs : List Char) : Option TimeText := do
  let (hour, rest) ← shortNumber? (← timeStart? cs)
  let (minute, rest) ← fixedNumber? 2 (← behind? ':' rest)
  let (second, rest) ← fixedNumber? 2 (← behind? ':' rest)
  let (fraction, rest) := match rest with
    | '.' :: more => (more.takeWhile isAsciiDigit, more.dropWhile isAsciiDigit)
    | more => ([], more)
  return {
    hour := digitsValue hour, minute := digitsValue minute, second := digitsValue second, fraction
    offset := ← offset? rest }

def ofChars? (cs : List Char) : Option Timestamp := do
  let (year, rest) ← fixedNumber? 4 cs
  let (month, rest) ← shortNumber? (← behind? '-' rest)
  let (day, rest) ← shortNumber? (← behind? '-' rest)
  return {
    year := digitsValue year, month := digitsValue month, day := digitsValue day
    wide := month.length = 2 && day.length = 2
    time := ← if rest.isEmpty then some none else (time? rest).map some }

/-- Whether a text that writes this is taken for a date without being told: months and days of one digit
need a time behind them. -/
def isPlain (t : Timestamp) : Bool :=
  t.wide || t.time.isSome

/-- The microseconds that a fraction of a second writes: six digits of it count. -/
def microseconds (fraction : List Char) : Nat :=
  let digits := fraction.take 6
  digitsValue digits * 10 ^ (6 - digits.length)

end Timestamp

end CodecReport.Yaml
