import TableBook.Calendar.Date
import TableBook.Text.Digits

namespace TableBook.Calendar

open Text

def weekdayNames : List String := ["Mon", "Tue", "Wed", "Thu", "Fri", "Sat", "Sun"]

def monthNames : List String :=
  ["Jan", "Feb", "Mar", "Apr", "May", "Jun", "Jul", "Aug", "Sep", "Oct", "Nov", "Dec"]

/-- Four digits; a longer year has a plus sign, a negative one a minus sign. -/
def yearText (year : Int) : List Char :=
  let digits := padDigits 4 year.natAbs
  if year < 0 then '-' :: digits else if 9999 < year then '+' :: digits else digits

/-- The part of a date and time that a letter stands for. -/
def partText? (t : DateTime) (letter : Char) : Option (List Char) :=
  match letter with
  | 'Y' => some (yearText t.date.year)
  | 'y' => some (padDigits 2 (t.date.year % 100).toNat)
  | 'm' => some (padDigits 2 t.date.month)
  | 'd' => some (padDigits 2 t.date.day)
  | 'H' => some (padDigits 2 t.hour)
  | 'M' => some (padDigits 2 t.minute)
  | 'S' => some (padDigits 2 t.clockSecond)
  | 'j' => some (padDigits 3 t.date.dayOfYear)
  | 'a' => some (weekdayNames[t.date.weekday]?.getD "").toList
  | 'b' => some (monthNames[t.date.month - 1]?.getD "").toList
  | '%' => some ['%']
  | _ => none

/-- The text of a date and time, if every letter of the pattern stands for
something. -/
def format? (t : DateTime) : List Char → Option (List Char)
  | [] => some []
  | '%' :: letter :: cs =>
      match partText? t letter, format? t cs with
      | some part, some rest => some (part ++ rest)
      | _, _ => none
  | ['%'] => none
  | c :: cs => (format? t cs).map (c :: ·)

end TableBook.Calendar
