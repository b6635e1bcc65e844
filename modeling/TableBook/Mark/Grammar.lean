import TableBook.Address.Parser
import TableBook.Mark
import TableBook.Style.Highlight
import TableBook.Text.Word

namespace TableBook

/-- What is wrong with an attribute, or with the place of a cell. -/
inductive AttributeFault
  | unknownAttribute (name : String)
  | invalidValue (name value expected : String)
  | mergeConflict (range existing : Range)
  | coveredCell (cell : Address) (region : Range)
deriving DecidableEq, Repr

def AttributeFault.message : AttributeFault → String
  | .unknownAttribute name => "Attribute not allowed: " ++ name
  | .invalidValue name value expected =>
      "Invalid value '" ++ value ++ "' for " ++ name ++ ": expected " ++ expected
  | .mergeConflict range existing =>
      "Merge " ++ range.text ++ " overlaps merged region " ++ existing.text
  | .coveredCell cell region =>
      "Cell " ++ cell.text ++ " lies inside merged region " ++ region.text

namespace Grammar

open Text

/-- Digits of any script around an optional point, one at least. -/
def numeralRest (cs : List Char) : Option (List Char) :=
  let whole := cs.takeWhile isDecimalDigit
  match cs.dropWhile isDecimalDigit with
  | '.' :: rest =>
      let fraction := rest.takeWhile isDecimalDigit
      if whole.isEmpty && fraction.isEmpty then none
      else some (rest.dropWhile isDecimalDigit)
  | rest => if whole.isEmpty then none else some rest

/-- Nothing, or a power of ten. -/
def isPower : List Char → Bool
  | [] => true
  | c :: cs =>
      (c == 'e' || c == 'E') &&
        let digits := (Decimal.splitSign cs).2
        !digits.isEmpty && digits.all isDecimalDigit

/-- Plain or scientific notation, with an optional sign and blanks around. -/
def isNumeric (cs : List Char) : Bool :=
  match numeralRest (Decimal.splitSign (trim cs)).2 with
  | some rest => isPower rest
  | none => false

def isPositiveNumber (cs : List Char) : Bool :=
  isNumeric cs && ((Binary64.read (trim cs)).map Binary64.isPositive).getD false

/-- Digits only, at least 1, of at most 32 bits. -/
def positiveWord? (cs : List Char) : Option Nat :=
  (readWord cs).filter (0 < ·)

def isCapital (c : Char) : Bool := 'A' ≤ c && c ≤ 'Z'

/-- Column letters in capitals, no further than the last column. -/
def isColumn (cs : List Char) : Bool :=
  !cs.isEmpty && cs.all isCapital && (Address.columnOfLetters cs).isOk

/-- The word `true`, two columns around a colon, or columns between commas. -/
def isAutosize (cs : List Char) : Bool :=
  cs = "true".toList ||
    match cut ':' cs with
    | some (first, last) => isColumn first && isColumn last
    | none => (pieces ',' cs).all isColumn

/-- Whether a character is the small ASCII letter `letter` in some case; the
long s is a case of s. -/
def isCaseOf (letter c : Char) : Bool :=
  c.toLower == letter || (letter == 's' && c == 'ſ')

/-- The text after `lead`, in any case, if the text starts with it. -/
def afterAnyCase : List Char → List Char → Option (List Char)
  | [], cs => some cs
  | _ :: _, [] => none
  | letter :: lead, c :: cs => if isCaseOf letter c then afterAnyCase lead cs else none

/-- A host and what follows it, without a blank. -/
def isWebRest : List Char → Bool
  | [] => false
  | c :: cs => !isBlank c && c != '/' && c != '?' && c != '#' && cs.all (!isBlank ·)

/-- Two parts without blanks and at signs, around one at sign. -/
def isMailRest (cs : List Char) : Bool :=
  match cut '@' cs with
  | some (user, host) =>
      !user.isEmpty && user.all (!isBlank ·) &&
        !host.isEmpty && host.all fun c => !isBlank c && c != '@'
  | none => false

/-- A web or mail address, or a place inside the workbook. -/
def isLink (cs : List Char) : Bool :=
  ["https://", "http://", "ftp://"].any (fun scheme =>
      ((afterAnyCase scheme.toList cs).map isWebRest).getD false) ||
    ((afterAnyCase "mailto:".toList cs).map isMailRest).getD false ||
    match cs with
    | '#' :: place => !place.isEmpty && place.all (!isBlank ·)
    | _ => false

/-- How the value of a mark is written. -/
inductive Form
  | anything
  | nonEmpty
  | color
  | keyword (words : List String) (expected : String)
  | positiveInteger
  | span (greatest : Nat) (expected : String)
  | positiveNumber
  | margins
  | autosize
  | cell
  | range
  | rule
  | link
deriving DecidableEq, Repr

def trueOrFalse : Form := .keyword ["true", "false"] "'true' or 'false'"

def form : Mark → Form
  | .sheet => .nonEmpty
  | .freeze => .cell
  | .autosize => .autosize
  | .autofilter => .range
  | .defaultColumnWidth | .zoom | .width | .imageWidth | .imageHeight => .positiveInteger
  | .columnSpan => .span maxColumns "a positive integer no greater than 16384"
  | .rowSpan => .span maxRows "a positive integer no greater than 1048576"
  | .printOrientation => .keyword ["portrait", "landscape"] "'portrait' or 'landscape'"
  | .printFit => .keyword ["width", "height", "page"] "'width', 'height' or 'page'"
  | .pageMargins => .margins
  | .tabColor | .backgroundColor | .borderColor | .fontColor => .color
  | .gridlines => .keyword ["on", "off"] "'on' or 'off'"
  | .height | .fontSize | .commentWidth | .commentHeight => .positiveNumber
  | .valueType =>
      .keyword ["string", "number", "bool", "date", "null"]
        "'string', 'number', 'bool', 'date' or 'null'"
  | .border =>
      .keyword ["thin", "medium", "thick", "none"] "'thin', 'medium', 'thick' or 'none'"
  | .fontUnderline => .keyword ["single", "double", "none"] "'single', 'double' or 'none'"
  | .locked | .fontBold | .fontItalic | .commentVisible => trueOrFalse
  | .conditional => .rule
  | .link => .link
  | .hidden | .namedStyle | .format | .align | .verticalAlign | .wrap | .formula | .hyperlink
  | .linkTooltip | .comment | .commentAuthor | .choices | .numberLocale | .image | .fontName =>
      .anything

/-- The part of the value that is wrong, and what was expected instead. -/
def marginsFault? (value : String) : Option (String × String) :=
  let parts := (pieces ',' value.toList).map trim
  if 6 < parts.length then
    some (value, "1 to 6 numbers (top,right,bottom,left,header,footer)")
  else
    (parts.find? (!isNumeric ·)).map (String.ofList ·, "a numeric margin")

/-- The whole value and what was expected, unless it is well written. -/
def accept (wellWritten : Bool) (value expected : String) : Option (String × String) :=
  if wellWritten then none else some (value, expected)

/-- What is wrong with a value of a form, if anything is. -/
def fault? (value : String) : Form → Option (String × String)
  | .anything => none
  | .nonEmpty => accept (!value.isEmpty) value "a non-empty value"
  | .color => accept (Highlight.isPlainColor value.toList) value "a hex color (#RRGGBB)"
  | .keyword words expected => accept (words.contains value) value expected
  | .positiveInteger => accept (positiveWord? value.toList).isSome value "a positive integer"
  | .span greatest expected =>
      accept ((positiveWord? value.toList).any (· ≤ greatest)) value expected
  | .positiveNumber => accept (isPositiveNumber value.toList) value "a positive number"
  | .margins => marginsFault? value
  | .autosize =>
      accept (isAutosize value.toList) value
        "'true', a column (A), a range (A:D) or a list (A,C,E)"
  | .cell => accept (Address.parse value.toList).isOk value "a cell reference like B2"
  | .range => accept (Range.parse value.toList).isOk value "a range like A1:D1"
  | .rule =>
      accept (Highlight.read value.toList).isSome value
        "'value>N', 'value<N' or 'between:A:B' followed by |bg:RRGGBB, |font:RRGGBB or |bold"
  | .link =>
      accept (isLink value.toList) value "a valid URL (http, https, ftp, mailto or #Sheet!A1)"

/-- Check one attribute. Without strictness everything passes. -/
def check (strict : Bool) (name value : String) : Except AttributeFault Unit :=
  if strict then
    match Mark.ofName? name with
    | none => .error (.unknownAttribute name)
    | some mark =>
        match fault? value (form mark) with
        | none => .ok ()
        | some (wrong, expected) => .error (.invalidValue name wrong expected)
  else .ok ()

end Grammar

end TableBook
