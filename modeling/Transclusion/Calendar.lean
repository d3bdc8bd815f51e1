import Transclusion.Text.Cut

/-! Days and moments.

A day of the proleptic Gregorian calendar, and a moment of such a day with an
optional distance from universal time. Both are written with fixed widths; a
fraction of a second is written when there is one. Two moments whose distance
from universal time is known are the same if they happen together, wherever
that is. -/
namespace Transclusion

/-- A day: year, month and day of the month, each counted from one. -/
structure Day where
  year : Nat
  month : Nat
  day : Nat
  deriving DecidableEq, Repr

/-- A moment. The zone is the distance from universal time in minutes, if it is known. -/
structure Moment where
  day : Day
  hour : Nat
  minute : Nat
  second : Nat
  microsecond : Nat
  zone : Option Int
  deriving DecidableEq, Repr

/-- A number in decimal, filled up with zeros on the left. -/
def paddedDecimal (width n : Nat) : String :=
  let digits := Nat.toDigits 10 n
  String.ofList (List.replicate (width - digits.length) '0' ++ digits)

/-- What keeps three numbers from being a day, or four from being a time of day. -/
inductive CalendarFault where
  | year (n : Nat)
  | month
  | day
  | hour
  | minute
  | second
  deriving DecidableEq, Repr

namespace CalendarFault

def message : CalendarFault → String
  | year n => s!"year {n} is out of range"
  | month => "month must be in 1..12"
  | day => "day is out of range for month"
  | hour => "hour must be in 0..23"
  | minute => "minute must be in 0..59"
  | second => "second must be in 0..59"

end CalendarFault

namespace Day

def isLeapYear (year : Nat) : Bool :=
  year % 4 == 0 && (year % 100 != 0 || year % 400 == 0)

/-- The number of days of a month. -/
def daysIn (year month : Nat) : Nat :=
  if month = 2 then (if isLeapYear year then 29 else 28)
  else if month ∈ [4, 6, 9, 11] then 30
  else 31

/-- The day of three numbers, if there is one. -/
def of? (year month day : Nat) : Except CalendarFault Day :=
  if year < 1 ∨ 9999 < year then .error (.year year)
  else if month < 1 ∨ 12 < month then .error .month
  else if day < 1 ∨ daysIn year month < day then .error .day
  else .ok ⟨year, month, day⟩

/-- The number of days before the first of a year. -/
def daysBefore (year : Nat) : Nat :=
  let past := year - 1
  past * 365 + past / 4 - past / 100 + past / 400

/-- The number of a day, counted from the first of the year one. -/
def ordinal (d : Day) : Nat :=
  (List.range (d.month - 1)).foldl (fun n m => n + daysIn d.year (m + 1)) (daysBefore d.year) +
    (d.day - 1)

def text (d : Day) : String :=
  s!"{paddedDecimal 4 d.year}-{paddedDecimal 2 d.month}-{paddedDecimal 2 d.day}"

end Day

namespace Moment

/-- The moment of a day and a time, if the time is one. -/
def of? (day : Day) (hour minute second microsecond : Nat) (zone : Option Int) :
    Except CalendarFault Moment :=
  if 23 < hour then .error .hour
  else if 59 < minute then .error .minute
  else if 59 < second then .error .second
  else .ok ⟨day, hour, minute, second, microsecond, zone⟩

/-- The microseconds since the start of the year one, in universal time if the zone is known. -/
def instant (m : Moment) : Int :=
  let minutes : Int := (m.day.ordinal * 24 + m.hour) * 60 + m.minute
  ((minutes - m.zone.getD 0) * 60 + m.second) * 1000000 + m.microsecond

/-- Whether two moments are the same. One with a zone is never the same as one without. -/
def same (m n : Moment) : Bool := m.zone.isSome == n.zone.isSome && m.instant == n.instant

/-- Sign, hours and minutes of a zone. -/
def zoneText (zone : Int) : String :=
  (if zone < 0 then "-" else "+") ++
    paddedDecimal 2 (zone.natAbs / 60) ++ ":" ++ paddedDecimal 2 (zone.natAbs % 60)

/-- Day and time with a separator between them. -/
def textWith (separator : String) (m : Moment) : String :=
  m.day.text ++ separator ++
    s!"{paddedDecimal 2 m.hour}:{paddedDecimal 2 m.minute}:{paddedDecimal 2 m.second}" ++
    (if m.microsecond = 0 then "" else "." ++ paddedDecimal 6 m.microsecond) ++
    (match m.zone with | some zone => zoneText zone | none => "")

end Moment

end Transclusion
