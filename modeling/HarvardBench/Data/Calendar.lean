/-! Dates and times of the calendar. -/

set_option autoImplicit false

namespace HarvardBench

structure Date where
  year : Nat
  month : Nat
  day : Nat
  deriving DecidableEq, Repr

/-- A time of a day. The distance from universal time is in minutes, where it is known. -/
structure Moment where
  date : Date
  hour : Nat
  minute : Nat
  second : Nat
  microsecond : Nat
  zone : Option Int
  deriving DecidableEq, Repr

namespace Date

def isLeapYear (year : Nat) : Bool := year % 4 == 0 && (year % 100 != 0 || year % 400 == 0)

def daysInMonth (year month : Nat) : Nat :=
  if month = 2 then if isLeapYear year then 29 else 28
  else if month = 4 ∨ month = 6 ∨ month = 9 ∨ month = 11 then 30
  else 31

def isInCalendar (date : Date) : Bool :=
  1 ≤ date.year && 1 ≤ date.month && date.month ≤ 12 && 1 ≤ date.day &&
    date.day ≤ daysInMonth date.year date.month

def daysBefore (year : Nat) : Nat :=
  let past := year - 1
  365 * past + past / 4 - past / 100 + past / 400

def number (date : Date) : Nat :=
  let months := (List.range (date.month - 1)).map fun month => daysInMonth date.year (month + 1)
  daysBefore date.year + months.foldl (· + ·) 0 + date.day

end Date

namespace Moment

def reading (moment : Moment) : Nat :=
  let minutes := (moment.date.number * 24 + moment.hour) * 60 + moment.minute
  (minutes * 60 + moment.second) * 1000000 + moment.microsecond

def instant? (moment : Moment) : Option Int :=
  moment.zone.map fun zone => moment.reading - zone * 60000000

/-- Whether two moments are the same: at one instant, or on clocks of unknown zones alike. -/
def same (first second : Moment) : Bool :=
  match first.instant?, second.instant? with
  | some a, some b => a == b
  | none, none => first == second
  | some _, none | none, some _ => false

end Moment

end HarvardBench
