import TableBook.Calendar.Date
import TableBook.Number.Binary64

/-!
Serial day numbers: days since the end of 1899 with the time of day as a
fraction. A day 60 that the calendar does not have is counted, so the days from
March 1900 on lie one further. The arithmetic is written for any rounding of its
results; the one in use rounds to the nearest number of 64 bits.
-/

namespace TableBook.Serial

/-- The first day after the one that does not exist. -/
def march1900 : Date := ⟨1900, 3, 1⟩

/-- Day 0 of serials below 60. -/
def earlyStart : Date := ⟨1899, 12, 31⟩

/-- Day 0 of all other serials. -/
def lateStart : Date := ⟨1899, 12, 30⟩

/-- Day 0 of the serial of a date. -/
def startOf (d : Date) : Date :=
  if march1900.dayNumber ≤ d.dayNumber then lateStart else earlyStart

/-- Day 0 of a serial. -/
def startFor (days : Nat) : Date := if days < 60 then earlyStart else lateStart

section Arithmetic

-- What becomes of the exact result of every step of the arithmetic.
variable (round : Rat → Rat)

/-- The serial of a date and time from 1900 on. -/
def encodeWith (t : DateTime) : Option Rat :=
  if t.date.year < 1900 then none
  else
    let days := round ↑(t.date.dayNumber - (startOf t.date).dayNumber)
    let seconds := round (t.second + round (t.nano / 1000000000))
    some (round (days + round (seconds / DateTime.secondsInDay)))

/-- What a serial stands for. -/
inductive Decoded
  | moment (t : DateTime)
  /-- There is no such date. -/
  | unrepresentable
  /-- The span of days is too long to be counted in milliseconds. -/
  | spanTooLong
deriving DecidableEq, Repr

/-- The longest span of days that 63 bits of milliseconds can hold. -/
def longestSpan : Nat := (Nat.pow 2 63 - 1) / 1000 / DateTime.secondsInDay

/-- The date and time of a serial; the time is taken to the nearest second, a
half going up. A negative serial has none. -/
def decodeWith (serial : Rat) : Decoded :=
  if serial < 0 then .unrepresentable
  else
    let days := serial.floor.toNat
    let fraction := round (serial - days)
    let seconds := (round (fraction * DateTime.secondsInDay) + 1 / 2).floor.toNat
    if longestSpan < days then .spanTooLong
    else
      match DateTime.after? (startFor days) days seconds with
      | some t => .moment t
      | none => .unrepresentable

end Arithmetic

def encode (t : DateTime) : Option Binary64 :=
  (encodeWith Binary64.nearest t).map Binary64.ofRat

def decode (serial : Binary64) : Decoded :=
  match serial.toRat? with
  | some value => decodeWith Binary64.nearest value
  | none => .unrepresentable

end TableBook.Serial
