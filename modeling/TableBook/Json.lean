import TableBook.Number.Shortest
import TableBook.Text.Digits
import TableBook.Text.Pieces

namespace TableBook

inductive Json
  | null
  | boolean (b : Bool)
  | number (x : Binary64)
  | string (s : String)
  | list (items : List Json)
  | record (fields : List (String × Json))
deriving Repr

namespace Json

def ofOption {α : Type} (f : α → Json) : Option α → Json
  | some x => f x
  | none => .null

/-- From `10 ^ -5` up to `10 ^ 16` a number is written without a power of ten,
and then always with a point. -/
def shortestText (s : Shortest) : List Char :=
  let digits := (toString s.digits).toList
  let power : Int := s.exponent + digits.length - 1
  if -5 ≤ power ∧ power < 16 then
    if 0 ≤ s.exponent then s.positional ++ ['.', '0'] else s.positional
  else
    let fraction := if digits.length = 1 then [] else '.' :: digits.drop 1
    digits.take 1 ++ fraction ++ 'e' :: (if power < 0 then '-' else '+') ::
      Text.padDigits 2 power.natAbs

/-- What is not a finite number is written as null. -/
def numberText : Binary64 → List Char
  | .finite negative rank => Binary64.signText negative ++ shortestText (.ofRank rank)
  | _ => "null".toList

def hexDigit (n : Nat) : Char :=
  if n < 10 then Char.ofNat ('0'.toNat + n) else Char.ofNat ('a'.toNat + (n - 10))

def escapeChar (c : Char) : List Char :=
  if c = '"' ∨ c = '\\' then ['\\', c]
  else if c = '\n' then ['\\', 'n']
  else if c = '\r' then ['\\', 'r']
  else if c = '\t' then ['\\', 't']
  else if c = '\x08' then ['\\', 'b']
  else if c = '\x0c' then ['\\', 'f']
  else if c.toNat < 32 then
    '\\' :: 'u' :: '0' :: '0' :: [hexDigit (c.toNat / 16), hexDigit (c.toNat % 16)]
  else [c]

def stringText (s : String) : List Char := '"' :: s.toList.flatMap escapeChar ++ ['"']

def newLine (depth : Nat) : List Char := '\n' :: List.replicate (2 * depth) ' '

/-- Items between brackets, one to a line. -/
def block (depth : Nat) (opening closing : Char) (items : List (List Char)) : List Char :=
  if items.isEmpty then [opening, closing]
  else
    opening :: Text.join [','] (items.map (newLine (depth + 1) ++ ·)) ++ newLine depth ++ [closing]

mutual

/-- The text of a value inside `depth` brackets. -/
def textWithin (depth : Nat) : Json → List Char
  | .null => "null".toList
  | .boolean b => (if b then "true" else "false").toList
  | .number x => numberText x
  | .string s => stringText s
  | .list items => block depth '[' ']' (itemTexts (depth + 1) items)
  | .record fields => block depth '\x7b' '\x7d' (fieldTexts (depth + 1) fields)

def itemTexts (depth : Nat) : List Json → List (List Char)
  | [] => []
  | item :: items => item.textWithin depth :: itemTexts depth items

def fieldTexts (depth : Nat) : List (String × Json) → List (List Char)
  | [] => []
  | (name, value) :: fields =>
      (stringText name ++ ':' :: ' ' :: value.textWithin depth) :: fieldTexts depth fields

end

def text (j : Json) : String := String.ofList (j.textWithin 0)

end Json

end TableBook
