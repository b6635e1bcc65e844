import TableBook.Mark.Grammar
import TableBook.Calendar.Reader
import TableBook.Cell
import TableBook.Text.Lowercase

namespace TableBook

inductive ValueType
  | string
  | number
  | boolean
  | date
  | null
deriving DecidableEq, Repr

def ValueType.ofKeyword? : String → Option ValueType
  | "string" => some .string
  | "number" => some .number
  | "bool" => some .boolean
  | "date" => some .date
  | "null" => some .null
  | _ => none

/-- What a text is read as. -/
inductive Scalar
  | null
  | text (s : String)
  /-- Text that stays text even if it looks like a number. -/
  | explicitText (s : String)
  | number (x : Binary64)
  | boolean (b : Bool)
  | date (serial : Binary64)
deriving DecidableEq, Repr

def Scalar.isExplicit : Scalar → Bool
  | .explicitText _ => true
  | _ => false

def Scalar.value : Scalar → Value
  | .null => .null
  | .text s => .text s
  | .explicitText s => .text s
  | .number x => .number x
  | .boolean b => .boolean b
  | .date serial => .date serial

namespace Scalar

open Text

/-- The spaces that may stand between groups of digits. -/
def isGroupSpace (c : Char) : Bool := c == ' ' || c == '\u00A0' || c == '\u202F'

/-- Whether the language of a locale is French, which writes a comma before the
fraction. -/
def isFrench (locale : Option String) : Bool :=
  match locale with
  | some tag =>
      (tag.toList.takeWhile fun c => c != '-' && c != '_').map Char.toLower == ['f', 'r']
  | none => false

/-- A number without its group separators and with a point. -/
def normalizeNumber (french : Bool) (cs : List Char) : List Char :=
  if french then (cs.filter (!isGroupSpace ·)).map fun c => if c = ',' then '.' else c
  else cs.filter fun c => c != ',' && !isGroupSpace c

/-- The number a text writes after the custom of a locale. -/
def readNumber (cs : List Char) (locale : Option String) : Option Binary64 :=
  let normalized := normalizeNumber (isFrench locale) (trim cs)
  if Grammar.isNumeric normalized then Binary64.read normalized else none

def trueWords : List String := ["1", "true", "vrai", "yes", "oui"]

def readBoolean (s : String) : Bool := trueWords.contains (lowercase s)

/-- Four digits, two and two around dashes. -/
def looksLikeDate (cs : List Char) : Bool :=
  match cs with
  | a :: b :: c :: d :: '-' :: e :: f :: '-' :: g :: h :: _ =>
      [a, b, c, d, e, f, g, h].all isDecimalDigit
  | _ => false

/-- Without a wanted type, only what looks like a number or a date is one. -/
def infer (s : String) (locale : Option String) : Scalar :=
  let cs := s.toList
  let number :=
    if Grammar.isNumeric (cs.filter (!isGroupSpace ·)) then readNumber cs locale else none
  match number with
  | some x => .number x
  | none =>
      match if looksLikeDate cs then Calendar.readSerial cs else none with
      | some serial => .date serial
      | none => .text s

/-- The value of a cell's text, of a wanted type or of the type it looks like. -/
def ofText (s : String) (wanted : Option ValueType) (locale : Option String) : Scalar :=
  if s.isEmpty then .null
  else
    match wanted with
    | some .null => .null
    | some .string => .explicitText s
    | some .number =>
        match readNumber s.toList locale with
        | some x => .number x
        | none => .text s
    | some .boolean => .boolean (readBoolean s)
    | some .date =>
        match Calendar.readSerial s.toList with
        | some serial => .date serial
        | none => .text s
    | none => infer s locale

end Scalar

end TableBook
