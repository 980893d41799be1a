/-!
# Dates and times

Days of the calendar, and times of a day that may tell how far ahead of universal time they are. Numbers
that give no date or time are refused, the first one that is out of its range naming the fault.
-/

namespace CodecReport

inductive CalendarFault
  | year (found : Nat)
  | month
  | day
  | hour
  | minute
  | second
  /-- The distance from universal time, in minutes, is a day or more. -/
  | offset (minutes : Int)
  deriving DecidableEq, Repr

/-- A number in at least the given count of digits. -/
def paddedNumber (width n : Nat) : String :=
  let digits := toString n
  String.ofList (List.replicate (width - digits.length) '0') ++ digits

/-- A span of whole minutes as messages show it. -/
def spanRepr (minutes : Int) : String :=
  let days := minutes / 1440
  let seconds := minutes % 1440 * 60
  let parts := (if days = 0 then [] else ["days=" ++ toString days])
    ++ (if seconds = 0 then [] else ["seconds=" ++ toString seconds])
  "datetime.timedelta(" ++ (if parts.isEmpty then "0" else ", ".intercalate parts) ++ ")"

namespace CalendarFault

def message : CalendarFault → String
  | .year found => "year " ++ toString found ++ " is out of range"
  | .month => "month must be in 1..12"
  | .day => "day is out of range for month"
  | .hour => "hour must be in 0..23"
  | .minute => "minute must be in 0..59"
  | .second => "second must be in 0..59"
  | .offset minutes =>
    "offset must be a timedelta strictly between -timedelta(hours=24) and timedelta(hours=24), not "
      ++ spanRepr minutes ++ "."

end CalendarFault

def isLeapYear (year : Nat) : Bool :=
  year % 4 == 0 && (year % 100 != 0 || year % 400 == 0)

def monthLength (year month : Nat) : Nat :=
  if month = 2 then (if isLeapYear year then 29 else 28)
  else if month = 4 ∨ month = 6 ∨ month = 9 ∨ month = 11 then 30
  else 31

structure Date where
  year : Nat
  month : Nat
  day : Nat
  deriving DecidableEq, Repr

namespace Date

def ofNumbers (year month day : Nat) : Except CalendarFault Date :=
  if year = 0 then .error (.year year)
  else if month = 0 ∨ 12 < month then .error .month
  else if day = 0 ∨ monthLength year month < day then .error .day
  else .ok ⟨year, month, day⟩

/-- The days before a date, counted from the start of the first year. -/
def dayCount (d : Date) : Nat :=
  let years := d.year - 1
  365 * years + years / 4 - years / 100 + years / 400
    + ((List.range (d.month - 1)).map fun m => monthLength d.year (m + 1)).foldl (· + ·) 0 + (d.day - 1)

def text (d : Date) : String :=
  paddedNumber 4 d.year ++ "-" ++ paddedNumber 2 d.month ++ "-" ++ paddedNumber 2 d.day

def numbers (d : Date) : List String :=
  [toString d.year, toString d.month, toString d.day]

def repr (d : Date) : String :=
  "datetime.date(" ++ ", ".intercalate d.numbers ++ ")"

end Date

/-- A time of a day. `offset` is how many minutes it is ahead of universal time, if that is told. -/
structure Moment where
  date : Date
  hour : Nat
  minute : Nat
  second : Nat
  microsecond : Nat := 0
  offset : Option Int := none
  deriving DecidableEq, Repr

namespace Moment

/-- The distance from universal time, which is less than a day. -/
def checkOffset : Option Int → Except CalendarFault Unit
  | some minutes => if 1440 ≤ minutes.natAbs then .error (.offset minutes) else .ok ()
  | none => .ok ()

/-- The time with the given numbers; the year, month and day come first. -/
def ofNumbers (year month day hour minute second microsecond : Nat) (offset : Option Int) :
    Except CalendarFault Moment := do
  checkOffset offset
  let date ← Date.ofNumbers year month day
  if 23 < hour then throw .hour
  else if 59 < minute then throw .minute
  else if 59 < second then throw .second
  else return { date, hour, minute, second, microsecond, offset }

/-- The microseconds from the start of the first year, by the clock of the moment's own offset. -/
def clock (m : Moment) : Int :=
  (((m.date.dayCount * 24 + m.hour) * 60 + m.minute) * 60 + m.second) * 1000000 + m.microsecond

/-- The microseconds from the start of the first year by universal time, if the offset is told. -/
def universal? (m : Moment) : Option Int :=
  m.offset.map fun minutes => m.clock - minutes * 60000000

/-- Whether two moments are the same time: by universal time where both tell their offsets, by their clocks
where neither does. -/
def same (a b : Moment) : Bool :=
  a.offset.isSome == b.offset.isSome && a.universal? == b.universal?
    && (a.offset.isSome || a.clock == b.clock)

def offsetText (minutes : Int) : String :=
  (if minutes < 0 then "-" else "+") ++ paddedNumber 2 (minutes.natAbs / 60) ++ ":"
    ++ paddedNumber 2 (minutes.natAbs % 60)

/-- A moment as text; the fraction of its second is told unless it is zero. -/
def text (m : Moment) : String :=
  m.date.text ++ " " ++ paddedNumber 2 m.hour ++ ":" ++ paddedNumber 2 m.minute ++ ":"
    ++ paddedNumber 2 m.second
    ++ (if m.microsecond = 0 then "" else "." ++ paddedNumber 6 m.microsecond)
    ++ (m.offset.map offsetText).getD ""

def offsetRepr (minutes : Int) : String :=
  if minutes = 0 then "datetime.timezone.utc" else "datetime.timezone(" ++ spanRepr minutes ++ ")"

/-- A moment as messages show it inside a collection: zeros at its end are left out. -/
def repr (m : Moment) : String :=
  let fine := if m.microsecond ≠ 0 then [toString m.second, toString m.microsecond]
    else if m.second ≠ 0 then [toString m.second] else []
  let zone := (m.offset.map fun minutes => "tzinfo=" ++ offsetRepr minutes).toList
  "datetime.datetime("
    ++ ", ".intercalate (m.date.numbers ++ [toString m.hour, toString m.minute] ++ fine ++ zone) ++ ")"

end Moment

end CodecReport
