import TableBook.Style
import TableBook.Number.Decimal
import TableBook.Text.Blank
import TableBook.Text.Pieces

/-!
The one-line language of conditional rules: a condition and one or more looks
between bars, as in `value>100|bg:FFC7CE|bold` or `between:10:20|font:9C0006`.
-/

namespace TableBook.Highlight

open Text

/-- A number with digits on both sides of the point, if there is a point. -/
def isPlainNumber (cs : List Char) : Bool :=
  let digits := (Decimal.splitSign cs).2
  let rest := digits.dropWhile Char.isDigit
  !(digits.takeWhile Char.isDigit).isEmpty &&
    match rest with
    | [] => true
    | '.' :: fraction => !fraction.isEmpty && fraction.all Char.isDigit
    | _ => false

def readNumber (cs : List Char) : Option Binary64 :=
  if isPlainNumber cs then Binary64.read cs else none

/-- The word `value`, a comparison sign and a number, with blanks around the
sign allowed. -/
def readComparison (cs : List Char) : Option Condition :=
  (after "value" cs).bind fun rest =>
    match rest.dropWhile isBlank with
    | '>' :: number => (readNumber (number.dropWhile isBlank)).map .greaterThan
    | '<' :: number => (readNumber (number.dropWhile isBlank)).map .lessThan
    | _ => none

/-- The word `between` and two numbers, each after a colon. -/
def readBetween (cs : List Char) : Option Condition :=
  (after "between:" cs).bind fun rest =>
    (cut ':' rest).bind fun (first, last) =>
      (readNumber first).bind fun a => (readNumber last).map (.within a ·)

def readCondition (cs : List Char) : Option Condition :=
  (readComparison cs).or (readBetween cs)

/-- Six hexadecimal digits after an optional number sign. -/
def isPlainColor (cs : List Char) : Bool :=
  let digits := match cs with
    | '#' :: digits => digits
    | digits => digits
  digits.length == 6 && digits.all isHexDigit

/-- Take one look over: bold, a fill color or a font color. -/
def readLook (style : Style) (cs : List Char) : Option Style :=
  if cs = "bold".toList then some { style with font := { style.font with bold := some true } }
  else
    (cut ':' cs).bind fun (key, value) =>
      let value := trim value
      if isPlainColor value then
        (Color.read value).bind fun color =>
          if trim key = "bg".toList then some { style with fill := some color }
          else if trim key = "font".toList then
            some { style with font := { style.font with color := some color } }
          else none
      else none

def readLooks (style : Style) : List (List Char) → Option Style
  | [] => some style
  | look :: looks => (readLook style look).bind (readLooks · looks)

/-- Read a rule; there is none without a condition and at least one look. -/
def read (cs : List Char) : Option Rule :=
  match (pieces '|' cs).map trim with
  | condition :: look :: looks =>
      (readCondition condition).bind fun condition =>
        (readLooks {} (look :: looks)).map (condition, ·)
  | _ => none

end TableBook.Highlight
