import StructuredCql.Text.Basic

/-!
# Dates and times

Calendar dates, times of day and their combination, with an optional distance
from universal time in microseconds.  The text of each is the international one:
parts from the largest to the smallest, each with its full width.
-/

namespace StructuredCql

open StructuredCql.Text

structure Date where
  year : Nat
  month : Nat
  day : Nat
deriving DecidableEq, Repr

structure TimeOfDay where
  hour : Nat
  minute : Nat
  second : Nat
  microsecond : Nat
  offset : Option Int
deriving DecidableEq, Repr

structure Timestamp where
  date : Date
  time : TimeOfDay
deriving DecidableEq, Repr

def daysBeforeMonths : List Nat :=
  [0, 31, 59, 90, 120, 151, 181, 212, 243, 273, 304, 334]

def isLeapYear (year : Nat) : Bool :=
  year % 4 = 0 ∧ (year % 100 ≠ 0 ∨ year % 400 = 0)

def Date.ordinal (date : Date) : Nat :=
  let before := date.year - 1
  before * 365 + before / 4 - before / 100 + before / 400 +
    (daysBeforeMonths[date.month - 1]?).getD 0 +
    (if isLeapYear date.year ∧ 2 < date.month then 1 else 0) + date.day

/-- The microseconds since midnight of universal time, if the distance from
it is known; they may be of the day before or after. -/
def TimeOfDay.instant? (time : TimeOfDay) : Option Int :=
  time.offset.map fun offset =>
    (((time.hour * 60 + time.minute) * 60 + time.second) * 1000000 +
      time.microsecond : Nat) - offset

def Timestamp.instant? (timestamp : Timestamp) : Option Int :=
  timestamp.time.instant?.map fun instant =>
    timestamp.date.ordinal * 86400000000 + instant

def Date.text (date : Date) : String :=
  paddedDigits 4 date.year ++ "-" ++ paddedDigits 2 date.month ++ "-" ++
    paddedDigits 2 date.day

def microsecondText (microsecond : Nat) : String :=
  if microsecond = 0 then "" else "." ++ paddedDigits 6 microsecond

def offsetText (offset : Int) : String :=
  let microsecond := offset.natAbs % 1000000
  let distance := offset.natAbs / 1000000
  let second := distance % 60
  (if offset < 0 then "-" else "+") ++ paddedDigits 2 (distance / 3600) ++
    ":" ++ paddedDigits 2 (distance / 60 % 60) ++
    (if second = 0 ∧ microsecond = 0 then ""
      else ":" ++ paddedDigits 2 second ++ microsecondText microsecond)

def TimeOfDay.wholeSeconds (time : TimeOfDay) : String :=
  paddedDigits 2 time.hour ++ ":" ++ paddedDigits 2 time.minute ++ ":" ++
    paddedDigits 2 time.second

def TimeOfDay.offsetSuffix (time : TimeOfDay) : String :=
  match time.offset with
  | none => ""
  | some offset => offsetText offset

def TimeOfDay.text (time : TimeOfDay) : String :=
  time.wholeSeconds ++ microsecondText time.microsecond ++ time.offsetSuffix

def TimeOfDay.millisecondText (time : TimeOfDay) : String :=
  time.wholeSeconds ++ "." ++ paddedDigits 3 (time.microsecond / 1000) ++
    time.offsetSuffix

def Timestamp.text (timestamp : Timestamp) : String :=
  timestamp.date.text ++ "T" ++ timestamp.time.text

def Timestamp.millisecondText (timestamp : Timestamp) : String :=
  timestamp.date.text ++ "T" ++ timestamp.time.millisecondText

end StructuredCql
