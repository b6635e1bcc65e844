namespace TableBook

/-- A date of the proleptic Gregorian calendar. -/
structure Date where
  year : Int
  month : Nat
  day : Nat
deriving DecidableEq, Repr

/-- A date and a time of day; the fraction of a leap second lies beyond
`10 ^ 9` nanoseconds. -/
structure DateTime where
  date : Date
  second : Nat
  nano : Nat
deriving DecidableEq, Repr

namespace Date

def isLeapYear (year : Int) : Bool :=
  year % 4 == 0 && (year % 100 != 0 || year % 400 == 0)

def daysInMonth (year : Int) (month : Nat) : Nat :=
  if month = 2 then if isLeapYear year then 29 else 28
  else if month = 4 ∨ month = 6 ∨ month = 9 ∨ month = 11 then 30
  else 31

def minYear : Int := -262143
def maxYear : Int := 262142

/-- A date that the calendar has, in a year that is kept. -/
def isValid (d : Date) : Bool :=
  minYear ≤ d.year && d.year ≤ maxYear &&
    1 ≤ d.month && d.month ≤ 12 && 1 ≤ d.day && d.day ≤ daysInMonth d.year d.month

/-- Days since March 1 of the year 0. Years are counted from March, so that
the leap day is the last of its year. -/
def dayNumber (d : Date) : Int :=
  let year := if d.month ≤ 2 then d.year - 1 else d.year
  let month : Int := (d.month + 9) % 12
  365 * year + year / 4 - year / 100 + year / 400 + (153 * month + 2) / 5 + d.day - 1

/-- The days of four hundred years. -/
def daysInEra : Int := 146097

def ofDayNumber (n : Int) : Date :=
  let era := n / daysInEra
  let dayOfEra := n % daysInEra
  let yearOfEra :=
    (dayOfEra - dayOfEra / 1460 + dayOfEra / 36524 - dayOfEra / 146096) / 365
  let dayOfYear := dayOfEra - (365 * yearOfEra + yearOfEra / 4 - yearOfEra / 100)
  let month := (5 * dayOfYear + 2) / 153
  let day := dayOfYear - (153 * month + 2) / 5 + 1
  let year := yearOfEra + era * 400
  if month < 10 then ⟨year, (month + 3).toNat, day.toNat⟩
  else ⟨year + 1, (month - 9).toNat, day.toNat⟩

/-- The number of a day in its year, from 1. -/
def dayOfYear (d : Date) : Nat :=
  (d.dayNumber - (Date.mk d.year 1 1).dayNumber + 1).toNat

/-- The day of the week, from Monday = 0. -/
def weekday (d : Date) : Nat := ((d.dayNumber + 2) % 7).toNat

end Date

namespace DateTime

def secondsInDay : Nat := 86400

def hour (t : DateTime) : Nat := t.second / 3600

def minute (t : DateTime) : Nat := t.second / 60 % 60

/-- The second on the clock; a leap second shows as 60. -/
def clockSecond (t : DateTime) : Nat := t.second % 60 + t.nano / Nat.pow 10 9

/-- The whole second a number of days and seconds after a day begins, if its
date is kept. -/
def after? (start : Date) (days seconds : Nat) : Option DateTime :=
  let reached := start.dayNumber + days
  let date := Date.ofDayNumber (reached + seconds / secondsInDay)
  if (Date.ofDayNumber reached).isValid && date.isValid then
    some ⟨date, seconds % secondsInDay, 0⟩
  else none

end DateTime

end TableBook
