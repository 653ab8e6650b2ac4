/-!
# Dates and times

A calendar date with a time of day and no zone, as databases store it. A leap second is second 59
with a billion or more nanoseconds.

* `Date`, `Time`, `DateTime`: valid ones only.
* `Date.of?`, `Time.of?`: from numbers.
-/

namespace RecordSql

/-- Whether `year` has a 29th of February. -/
def isLeapYear (year : Int) : Bool := year % 4 == 0 && (year % 100 != 0 || year % 400 == 0)

/-- The number of days of a month, zero for a month that does not exist. -/
def monthDays (year : Int) (month : Nat) : Nat :=
  if month = 2 then (if isLeapYear year then 29 else 28)
  else if month = 4 ∨ month = 6 ∨ month = 9 ∨ month = 11 then 30
  else if 1 ≤ month ∧ month ≤ 12 then 31
  else 0

/-- A day of the proleptic Gregorian calendar, in the years that day counts of 32 bits reach. -/
structure Date where
  year : Int
  month : Nat
  day : Nat
  year_range : -262143 ≤ year ∧ year ≤ 262142
  day_range : 1 ≤ day ∧ day ≤ monthDays year month
deriving DecidableEq

def Date.of? (year : Int) (month day : Nat) : Option Date :=
  if h : (-262143 ≤ year ∧ year ≤ 262142) ∧ 1 ≤ day ∧ day ≤ monthDays year month then
    some ⟨year, month, day, h.1, h.2⟩
  else none

/-- A time of day to the nanosecond. -/
structure Time where
  hour : Nat
  minute : Nat
  second : Nat
  nano : Nat
  clock_range : hour < 24 ∧ minute < 60 ∧ second < 60
  nano_range : nano < 2000000000 ∧ (1000000000 ≤ nano → second = 59)
deriving DecidableEq

def Time.of? (hour minute second nano : Nat) : Option Time :=
  if h : (hour < 24 ∧ minute < 60 ∧ second < 60) ∧
      nano < 2000000000 ∧ (1000000000 ≤ nano → second = 59) then
    some ⟨hour, minute, second, nano, h.1, h.2⟩
  else none

structure DateTime where
  date : Date
  time : Time
deriving DecidableEq

/-- Midnight at the start of 1970. -/
def DateTime.epoch : DateTime :=
  ⟨⟨1970, 1, 1, by decide, by decide⟩, ⟨0, 0, 0, 0, by decide, by decide⟩⟩

end RecordSql
