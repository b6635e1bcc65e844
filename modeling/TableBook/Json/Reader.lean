import TableBook.Json
import TableBook.Text.CodePoints
import TableBook.Number.Decimal

namespace TableBook

/-- Why a text cannot be read, and what was not read yet. -/
inductive JsonFault
  | malformed (rest : List Char)
  /-- There is a value, but not of the kind that belongs here. -/
  | wrongKind (found expected : String) (rest : List Char)
deriving DecidableEq, Repr

namespace JsonFault

/-- The line of a place in a text and the bytes before it on that line, given
the text up to there. -/
def position (before : List Char) : Nat × Nat :=
  let line := 1 + before.count '\n'
  let onLine := (before.reverse.takeWhile (· != '\n')).reverse
  (line, (String.ofList onLine).utf8ByteSize)

/-- The message for a fault in a text. -/
def message (whole : List Char) (fault : JsonFault) : String :=
  let (reason, rest) := match fault with
    | malformed rest => ("malformed value", rest)
    | wrongKind found expected rest =>
        ("invalid type: " ++ found ++ ", expected " ++ expected, rest)
  let (line, column) := position (whole.take (whole.length - rest.length))
  reason ++ s!" at line {line} column {column}"

end JsonFault

namespace Json

open Text

def isBlank (c : Char) : Bool := c == ' ' || c == '\n' || c == '\t' || c == '\r'

def skipBlanks (cs : List Char) : List Char := cs.dropWhile isBlank

/-- Go past a sign, with blanks in front of it. -/
def sign (c : Char) (cs : List Char) : Except JsonFault (List Char) :=
  match skipBlanks cs with
  | d :: rest => if d = c then .ok rest else .error (.malformed (d :: rest))
  | [] => .error (.malformed [])

def fourDigits : List Char → Option (Nat × List Char)
  | a :: b :: c :: d :: rest =>
      if [a, b, c, d].all isHexDigit then some (natOfHex [a, b, c, d], rest) else none
  | _ => none

/-- The character of an escape after `u`; one beyond `FFFF` is written as a
pair of escapes. -/
def unicodeEscape (cs : List Char) : Option (Char × List Char) := do
  let (high, rest) ← fourDigits cs
  if 0xDC00 ≤ high ∧ high ≤ 0xDFFF then none
  else if 0xD800 ≤ high ∧ high ≤ 0xDBFF then
    let rest ← after "\\u" rest
    let (low, rest) ← fourDigits rest
    if 0xDC00 ≤ low ∧ low ≤ 0xDFFF then
      some (Char.ofNat (0x10000 + (high - 0xD800) * 0x400 + (low - 0xDC00)), rest)
    else none
  else some (Char.ofNat high, rest)

/-- The character that a letter after a backslash stands for. -/
def shortEscape? (c : Char) : Option Char :=
  if c = '"' ∨ c = '\\' ∨ c = '/' then some c
  else if c = 'b' then some '\x08'
  else if c = 'f' then some '\x0c'
  else if c = 'n' then some '\n'
  else if c = 'r' then some '\r'
  else if c = 't' then some '\t'
  else none

/-- The characters up to the closing quote, and what follows it; `fuel` bounds
their number. -/
def charsWithin : Nat → List Char → Except JsonFault (List Char × List Char)
  | 0, cs => .error (.malformed cs)
  | _, [] => .error (.malformed [])
  | fuel + 1, c :: cs => do
      if c = '"' then .ok ([], cs)
      else if c = '\\' then
        match cs with
        | [] => .error (.malformed [])
        | 'u' :: digits =>
            match unicodeEscape digits with
            | none => .error (.malformed digits)
            | some (d, rest) =>
                let (ds, rest) ← charsWithin fuel rest
                .ok (d :: ds, rest)
        | letter :: rest =>
            match shortEscape? letter with
            | none => .error (.malformed rest)
            | some d =>
                let (ds, rest) ← charsWithin fuel rest
                .ok (d :: ds, rest)
      else if c.toNat < 32 then .error (.malformed cs)
      else
        let (ds, rest) ← charsWithin fuel cs
        .ok (c :: ds, rest)

def chars (cs : List Char) : Except JsonFault (String × List Char) :=
  (charsWithin (cs.length + 1) cs).map fun (ds, rest) => (String.ofList ds, rest)

/-- What a number is called, whole ones apart from others. -/
def numberKind (cs : List Char) : Option String :=
  let unsigned := cs.dropWhile (· == '-')
  if unsigned.all Char.isDigit then some ("integer \x60" ++ String.ofList cs ++ "\x60")
  else (Binary64.read cs).map fun x =>
    "floating point \x60" ++ String.ofList (numberText x) ++ "\x60"

def isNumberChar (c : Char) : Bool :=
  c.isDigit || c == '-' || c == '+' || c == '.' || c == 'e' || c == 'E'

/-- Refuse a value that is not of the expected kind. -/
def refuse (expected : String) (cs : List Char) : JsonFault :=
  let word (name found : String) : JsonFault :=
    match after name cs with
    | some rest => .wrongKind found expected rest
    | none => .malformed cs
  match cs with
  | 'n' :: _ => word "null" "null"
  | 't' :: _ => word "true" "boolean \x60true\x60"
  | 'f' :: _ => word "false" "boolean \x60false\x60"
  | '[' :: _ => .wrongKind "sequence" expected cs
  | '\x7b' :: _ => .wrongKind "map" expected cs
  | '"' :: rest =>
      match chars rest with
      | .ok (s, rest) => .wrongKind ("string " ++ String.ofList (stringText s)) expected rest
      | .error fault => fault
  | cs =>
      let digits := cs.takeWhile isNumberChar
      match if digits.isEmpty then none else numberKind digits with
      | some found => .wrongKind found expected (cs.drop digits.length)
      | none => .malformed cs

def readString (cs : List Char) : Except JsonFault (String × List Char) :=
  match skipBlanks cs with
  | '"' :: rest => chars rest
  | [] => .error (.malformed [])
  | cs => .error (refuse "a string" cs)

/-- The fields from the first quote on; `fuel` bounds their number. -/
def fieldsWithin {α : Type} (value : List Char → Except JsonFault (α × List Char)) :
    Nat → List Char → Except JsonFault (List (String × α) × List Char)
  | 0, cs => .error (.malformed cs)
  | fuel + 1, cs => do
      let (name, cs) ← chars (← sign '"' cs)
      let (x, cs) ← value (← sign ':' cs)
      match skipBlanks cs with
      | ',' :: cs =>
          let (fields, cs) ← fieldsWithin value fuel cs
          .ok ((name, x) :: fields, cs)
      | '\x7d' :: cs => .ok ([(name, x)], cs)
      | cs => .error (.malformed cs)

/-- A record whose values all are of one kind. -/
def readRecord {α : Type} (value : List Char → Except JsonFault (α × List Char))
    (cs : List Char) : Except JsonFault (List (String × α) × List Char) :=
  match skipBlanks cs with
  | '\x7b' :: cs =>
      match skipBlanks cs with
      | '\x7d' :: cs => .ok ([], cs)
      | cs => fieldsWithin value (cs.length + 1) cs
  | [] => .error (.malformed [])
  | cs => .error (refuse "a map" cs)

/-- A whole text that is a record of records of strings. -/
def readRecords (cs : List Char) : Except JsonFault (List (String × List (String × String))) := do
  let (records, rest) ← readRecord (readRecord readString) cs
  match skipBlanks rest with
  | [] => .ok records
  | rest => .error (.malformed rest)

end Json

end TableBook
