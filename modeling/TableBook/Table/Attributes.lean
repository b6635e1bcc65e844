import TableBook.Markup.Node
import TableBook.Page
import TableBook.Style.Directive
import TableBook.Table.Context

namespace TableBook

/-- The value of a mark, unless it is missing or empty. -/
def Element.mark? (e : Element) (a : Mark) : Option String := e.filled? a.name

def Element.check (e : Element) (strict : Bool) : Except TableFault Unit :=
  (e.attributes.forM fun (name, value) =>
    if Mark.isName name then Grammar.check strict name value else .ok ()).mapError .mark

namespace Reader

open Text

/-- The whole number above zero at the start of a value, as in `12px`. -/
def leadingNumber (value : String) : Option Nat :=
  (readWord ((trim value.toList).takeWhile Char.isDigit)).filter (0 < ·)

/-- A span; what is not understood spans one. -/
def span (value : Option String) : Nat := (value.bind leadingNumber).getD 1

/-- A percentage above zero. -/
def zoom (value : String) : Option Nat :=
  (readSignedWord (trim value.toList)).filter (0 < ·)

/-- Any other word means portrait. -/
def orientation (value : String) : Orientation :=
  if value = "landscape" then .landscape else .portrait

/-- Up to six margins; one that is no number is zero. -/
def margins (value : String) : Margins :=
  .ofList (((pieces ',' value.toList).take 6).map fun part =>
    (Binary64.read (trim part)).getD .zero)

def address (value : String) : Option Address := (Address.parse value.toList).toOption

def range (value : String) : Option Range := (Range.parse value.toList).toOption

def column (cs : List Char) : Option Nat := (Address.columnOfLetters (trim cs)).toOption

/-- The columns an autosize mark names: all used ones, those between two,
or a list. One letter that is not understood spoils it. -/
def autosize (value : String) (used : List Nat) : Option (List Nat) :=
  if value = "true" then some used
  else
    match cut ':' value.toList with
    | some (first, last) => do
        let a ← column first
        let b ← column last
        some ((List.range (max a b - min a b + 1)).map (min a b + ·))
    | none => (pieces ',' value.toList).mapM column

def options (value : String) : List String := (pieces '|' value.toList).map String.ofList

end Reader

end TableBook
