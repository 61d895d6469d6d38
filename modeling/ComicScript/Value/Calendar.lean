import ComicScript.Decimal.Shortest

/-!
# Dates and times

Days of the proleptic calendar from year 1 to 9999, times of such a day to the microsecond, with or without an offset
from universal time, and the texts that show them.
-/

namespace ComicScript
set_option autoImplicit false

open Decimal (padLeft)

/-- Whether a year has a day more in February. -/
def isLeapYear (year : Nat) : Bool :=
  year % 4 == 0 && (year % 100 != 0 || year % 400 == 0)

/-- The number of days of a month. -/
def daysInMonth (year month : Nat) : Nat :=
  if month = 2 then (if isLeapYear year then 29 else 28)
  else if month ∈ [4, 6, 9, 11] then 30
  else 31

/-- A day of the calendar. -/
structure Date where
  year : Nat
  month : Nat
  day : Nat
  deriving DecidableEq, Repr

namespace Date

/-- The day with these numbers, if the calendar has it. -/
def of? (year month day : Nat) : Option Date :=
  if 1 ≤ year ∧ year ≤ 9999 ∧ 1 ≤ month ∧ month ≤ 12 ∧ 1 ≤ day ∧ day ≤ daysInMonth year month then
    some ⟨year, month, day⟩
  else none

/-- The number of days before this one since the start of year 1. -/
def ordinal (d : Date) : Nat :=
  let past := d.year - 1
  past * 365 + past / 4 - past / 100 + past / 400 +
    (List.range (d.month - 1)).foldl (fun days m => days + daysInMonth d.year (m + 1)) 0 + (d.day - 1)

/-- Year, month and day between dashes. -/
def text (d : Date) : String :=
  padLeft 4 (toString d.year) ++ "-" ++ padLeft 2 (toString d.month) ++ "-" ++ padLeft 2 (toString d.day)

/-- The numbers of a day between commas. -/
def numbers (d : Date) : String :=
  toString d.year ++ ", " ++ toString d.month ++ ", " ++ toString d.day

/-- A day inside the text of a collection. -/
def quoted (d : Date) : String :=
  "datetime.date(" ++ d.numbers ++ ")"

end Date

/-- A time of a day; `offset` counts minutes east of universal time. -/
structure Moment where
  date : Date
  hour : Nat
  minute : Nat
  second : Nat
  microsecond : Nat
  offset : Option Int
  deriving DecidableEq, Repr

namespace Moment

/-- The time with these numbers, if there is one; an offset stays under a day. -/
def of? (date : Date) (hour minute second microsecond : Nat) (offset : Option Int) : Option Moment :=
  if hour < 24 ∧ minute < 60 ∧ second < 60 ∧ microsecond < 1000000 ∧
      offset.all (fun m => m.natAbs < 24 * 60) then
    some ⟨date, hour, minute, second, microsecond, offset⟩
  else none

/-- Microseconds from the start of year 1 in universal time, or in local time if there is no offset. -/
def instant (m : Moment) : Int :=
  let minutes : Int := (m.date.ordinal * 24 + m.hour : Nat) * 60 + m.minute - m.offset.getD 0
  (minutes * 60 + m.second) * 1000000 + m.microsecond

/-- Two times are the same if they are the same instant, both with an offset or both without. -/
def same (a b : Moment) : Bool :=
  a.offset.isSome == b.offset.isSome && a.instant == b.instant

/-- Hours and minutes of an offset. -/
def offsetText (minutes : Int) : String :=
  (if minutes < 0 then "-" else "+") ++ padLeft 2 (toString (minutes.natAbs / 60)) ++ ":" ++
    padLeft 2 (toString (minutes.natAbs % 60))

/-- The day, a space, the time with its microseconds if there are any, and the offset. -/
def text (m : Moment) : String :=
  m.date.text ++ " " ++ padLeft 2 (toString m.hour) ++ ":" ++ padLeft 2 (toString m.minute) ++ ":" ++
    padLeft 2 (toString m.second) ++
    (if m.microsecond = 0 then "" else "." ++ padLeft 6 (toString m.microsecond)) ++
    (m.offset.map offsetText).getD ""

/-- An offset inside the text of a collection: whole days and the seconds past them. -/
def offsetQuoted (minutes : Int) : String :=
  if minutes = 0 then "datetime.timezone.utc"
  else if minutes < 0 then
    "datetime.timezone(datetime.timedelta(days=-1, seconds=" ++ toString ((minutes + 24 * 60) * 60) ++ "))"
  else "datetime.timezone(datetime.timedelta(seconds=" ++ toString (minutes * 60) ++ "))"

/-- A time inside the text of a collection; seconds and microseconds are left out if they are zero. -/
def quoted (m : Moment) : String :=
  let small :=
    if m.microsecond = 0 then (if m.second = 0 then [] else [m.second]) else [m.second, m.microsecond]
  "datetime.datetime(" ++ ", ".intercalate (m.date.numbers :: ([m.hour, m.minute] ++ small).map toString) ++
    (m.offset.map fun o => ", tzinfo=" ++ offsetQuoted o).getD "" ++ ")"

end Moment

end ComicScript
