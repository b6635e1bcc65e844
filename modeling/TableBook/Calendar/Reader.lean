import TableBook.Calendar.Serial
import TableBook.Text.Blank
import TableBook.Text.Digits

namespace TableBook.Calendar

open Text

/-- A number of at least one and at most `width` digits. -/
def number (width : Nat) (cs : List Char) : Option (Nat × List Char) :=
  let digits := (cs.take width).takeWhile Char.isDigit
  if digits.isEmpty then none else some (natOfDigits digits, cs.drop digits.length)

def longNumber (cs : List Char) : Option (Nat × List Char) := number cs.length cs

/-- A field of up to two digits within bounds, blanks in front allowed. -/
def field (least greatest : Nat) (cs : List Char) : Option (Nat × List Char) :=
  (number 2 (cs.dropWhile isBlank)).filter fun (n, _) => least ≤ n && n ≤ greatest

def fixedField (least greatest : Nat) (cs : List Char) : Option (Nat × List Char) :=
  if (cs.take 2).length = 2 ∧ (cs.take 2).all Char.isDigit then
    (number 2 cs).filter fun (n, _) => least ≤ n && n ≤ greatest
  else none

/-- A year of up to four digits, or of any length after a sign. -/
def year (cs : List Char) : Option (Int × List Char) :=
  match cs.dropWhile isBlank with
  | '-' :: rest => (longNumber rest).map fun (n, rest) => (-(n : Int), rest)
  | '+' :: rest => (longNumber rest).map fun (n, rest) => ((n : Int), rest)
  | rest => (number 4 rest).map fun (n, rest) => ((n : Int), rest)

def sign (c : Char) : List Char → Option (List Char)
  | [] => none
  | d :: cs => if d = c then some cs else none

/-- Year, month and day around a separator. -/
def date (separator : Char) (cs : List Char) : Option (Date × List Char) := do
  let (y, cs) ← year cs
  let cs ← sign separator cs
  let (m, cs) ← field 1 12 cs
  let cs ← sign separator cs
  let (d, cs) ← field 1 31 cs
  if (Date.mk y m d).isValid then some (⟨y, m, d⟩, cs) else none

/-- The nanoseconds that the digits after a point write; digits beyond the
ninth mean nothing. -/
def fraction : List Char → Option (Nat × List Char)
  | '.' :: cs =>
      let digits := cs.takeWhile Char.isDigit
      let kept := digits.take 9
      if digits.isEmpty then none
      else some (natOfDigits kept * Nat.pow 10 (9 - kept.length), cs.drop digits.length)
  | cs => some (0, cs)

/-- A time of day; second 60 is a leap second. -/
def clock (date : Date) (hour minute second nano : Nat) : DateTime :=
  let (second, nano) := if second = 60 then (59, nano + Nat.pow 10 9) else (second, nano)
  ⟨date, hour * 3600 + minute * 60 + second, nano⟩

def hourMinute (cs : List Char) : Option ((Nat × Nat) × List Char) := do
  let (hour, cs) ← field 0 23 cs
  let cs ← sign ':' cs
  let (minute, cs) ← field 0 59 cs
  some ((hour, minute), cs)

/-- The end of the text. -/
def finish {α : Type} (result : Option (α × List Char)) : Option α :=
  match result with
  | some (value, []) => some value
  | _ => none

/-- The text after the mark between date and time: blanks, or a capital T. -/
def afterMark (mark : Char) (cs : List Char) : Option (List Char) :=
  if mark = ' ' then some (cs.dropWhile isBlank) else sign mark cs

def withSeconds (mark : Char) (cs : List Char) : Option (DateTime × List Char) := do
  let (day, cs) ← date '-' cs
  let cs ← afterMark mark cs
  let ((hour, minute), cs) ← hourMinute cs
  let cs ← sign ':' cs
  let (second, cs) ← field 0 60 cs
  let (nano, cs) ← fraction cs
  some (clock day hour minute second nano, cs)

def withMinutes (mark : Char) (cs : List Char) : Option (DateTime × List Char) := do
  let (day, cs) ← date '-' cs
  let cs ← afterMark mark cs
  let ((hour, minute), cs) ← hourMinute cs
  some (clock day hour minute 0 0, cs)

/-- The minutes of an offset from universal time, written `Z` or as a sign,
hours and minutes; a day or more is no offset. -/
def offset : List Char → Option (Nat × List Char)
  | [] => none
  | c :: cs =>
      if c = 'Z' ∨ c = 'z' then some (0, cs)
      else if c = '+' ∨ c = '-' ∨ c = '−' then do
        let (hours, cs) ← fixedField 0 23 cs
        let cs ← sign ':' cs
        let (minutes, cs) ← fixedField 0 59 cs
        some (hours * 60 + minutes, cs)
      else none

/-- A timestamp with an offset; all its fields have a fixed width. -/
def timestamp (cs : List Char) : Option (DateTime × List Char) := do
  let y ← if (cs.take 4).length = 4 ∧ (cs.take 4).all Char.isDigit then
    some (natOfDigits (cs.take 4)) else none
  let cs ← sign '-' (cs.drop 4)
  let (m, cs) ← fixedField 1 12 cs
  let cs ← sign '-' cs
  let (d, cs) ← fixedField 1 31 cs
  let cs ← (sign 'T' cs).or ((sign 't' cs).or (sign ' ' cs))
  let (hour, cs) ← fixedField 0 23 cs
  let cs ← sign ':' cs
  let (minute, cs) ← fixedField 0 59 cs
  let cs ← sign ':' cs
  let (second, cs) ← fixedField 0 60 cs
  let (nano, cs) ← fraction cs
  let (_, cs) ← offset cs
  if (Date.mk y m d).isValid then some (clock ⟨y, m, d⟩ hour minute second nano, cs) else none

/-- The date and time a text writes in one of the accepted ways. -/
def read (cs : List Char) : Option DateTime :=
  let midnight := fun day : Date => (⟨day, 0, 0⟩ : DateTime)
  ((finish (date '-' cs)).map midnight).or <|
    ((finish (date '/' cs)).map midnight).or <|
    (finish (withSeconds ' ' cs)).or <|
    (finish (withSeconds 'T' cs)).or <|
    (finish (withMinutes ' ' cs)).or <|
    (finish (withMinutes 'T' cs)).or <|
    finish (timestamp cs)

/-- The serial of the date and time a text writes. -/
def readSerial (cs : List Char) : Option Binary64 := (read (trim cs)).bind Serial.encode

end TableBook.Calendar
