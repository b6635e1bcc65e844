import TableBook.Number.Shortest
import TableBook.Text.Pieces

namespace TableBook

inductive Value
  | null
  | boolean (b : Bool)
  | number (x : Binary64)
  /-- A serial day number. -/
  | date (serial : Binary64)
  | text (s : String)
  /-- A formula with its equals sign. -/
  | formula (s : String)
  /-- The place of an image among the drawings of the sheet. -/
  | image (index : Nat)
deriving DecidableEq, Repr

namespace Value

/-- A formula; the equals sign is added where it is missing. -/
def ofFormula (s : String) : Value :=
  match s.toList with
  | '=' :: _ => formula s
  | _ => formula ("=" ++ s)

def isNull (v : Value) : Bool := v == null

def isFormula : Value → Bool
  | formula _ => true
  | _ => false

/-- A date gives its serial, a truth value 0 or 1. -/
def asNumber : Value → Option Binary64
  | number x => some x
  | date serial => some serial
  | boolean b => some (.ofInt (if b then 1 else 0))
  | _ => none

def asBoolean : Value → Option Bool
  | boolean b => some b
  | _ => none

def asText : Value → Option String
  | text s => some s
  | _ => none

def formulaText : Value → Option String
  | formula s => some s
  | _ => none

def kind : Value → String
  | null => "null"
  | boolean _ => "boolean"
  | number _ => "number"
  | date _ => "date"
  | text _ => "string"
  | formula _ => "formula"
  | image _ => "image"

/-- The text a value shows; an image shows none. -/
def shown : Value → String
  | null => ""
  | boolean b => if b then "TRUE" else "FALSE"
  | number x => x.text
  | date serial => serial.text
  | text s => s
  | formula s => s
  | image _ => ""

end Value

structure Link where
  target : String
  tooltip : Option String := none
deriving DecidableEq, Repr

def Link.isInternal (l : Link) : Bool := l.target.toList.head? == some '#'

structure Comment where
  author : String
  text : String
  visible : Bool := false
  width : Option Binary64 := none
  height : Option Binary64 := none
deriving DecidableEq, Repr

/-- What happens to input that is not allowed. -/
inductive AlertStyle
  | stop
deriving DecidableEq, Repr

structure Choices where
  formula : String
  blankAllowed : Bool := true
  dropdown : Bool := true
  alert : Bool := true
  alertStyle : AlertStyle := .stop
deriving DecidableEq, Repr

namespace Choices

def doubleQuotes : List Char → List Char
  | [] => []
  | '"' :: cs => '"' :: '"' :: doubleQuotes cs
  | c :: cs => c :: doubleQuotes cs

/-- The options between commas, inside quotes. -/
def ofOptions (options : List String) : Choices where
  formula :=
    String.ofList ('"' :: Text.join [','] (options.map (doubleQuotes ·.toList)) ++ ['"'])

end Choices

structure Cell where
  value : Value := .null
  /-- The place of the style in the pool of the sheet. -/
  style : Nat := 0
  /-- The text must not be taken for a number or a date. -/
  explicit : Bool := false
  link : Option Link := none
  comment : Option Comment := none
  choices : Option Choices := none
deriving DecidableEq, Repr, Inhabited

namespace Cell

def hasValue (c : Cell) : Bool := !c.value.isNull

/-- No value, the empty style and nothing attached. -/
def isEmpty (c : Cell) : Bool :=
  c.value.isNull && c.style == 0 && c.link.isNone && c.comment.isNone && c.choices.isNone

def withValue (c : Cell) (v : Value) : Cell := { c with value := v, explicit := false }

end Cell

end TableBook
