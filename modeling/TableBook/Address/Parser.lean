import TableBook.Fault
import TableBook.Text.Blank
import TableBook.Text.Bytes
import TableBook.Text.Pieces

namespace TableBook

/-- The value of a letter as a digit, A = 1 to Z = 26. -/
def Address.letterValue (c : Char) : Nat := c.toUpper.toNat - 'A'.toNat + 1

/-- The number of letters read so far and those to come; it stays at the
greatest 32-bit word once it reaches it. -/
def Address.columnAfter (column : Nat) : List Char → Except SheetFault Nat
  | [] => .ok column
  | c :: cs =>
      if c.isAlpha then
        columnAfter (min (column * 26 + letterValue c) Merge.lastIndex) cs
      else .error (.invalidAddress (.invalidLetter c))

/-- The column that letters of either case write. -/
def Address.columnOfLetters (letters : List Char) : Except SheetFault Nat :=
  if letters.isEmpty then .error (.invalidAddress .emptyLetters)
  else
    match columnAfter 0 letters with
    | .error fault => .error fault
    | .ok column =>
        if column ≤ maxColumns then .ok column else .error (.columnOutOfBounds column)

def Address.dropMark : List Char → List Char
  | '$' :: cs => cs
  | cs => cs

/-- The row of an address whose trimmed text is `text`. -/
def Address.readRow (text : String) (digits : List Char) : Except SheetFault Nat :=
  if digits.isEmpty then .error (.invalidAddress (.noRow text))
  else
    match Text.readWord digits with
    | none => .error (.invalidAddress (.invalidRow text))
    | some row =>
        if row = 0 then .error (.invalidAddress (.rowZero text))
        else if row ≤ maxRows then .ok row
        else .error (.rowOutOfBounds row)

/-- Read an address; blanks around it mean nothing. -/
def Address.parse (cs : List Char) : Except SheetFault Address :=
  let cs := Text.trim cs
  let text := String.ofList cs
  if cs.isEmpty then .error (.invalidAddress .empty)
  else
    let afterMark := dropMark cs
    let letters := afterMark.takeWhile Char.isAlpha
    if letters.isEmpty then .error (.invalidAddress (.noLetters text))
    else
      match columnOfLetters letters with
      | .error fault => .error fault
      | .ok column =>
          match readRow text (dropMark (afterMark.dropWhile Char.isAlpha)) with
          | .error fault => .error fault
          | .ok row => .ok ⟨row, column⟩

/-- The position behind a dollar sign, if there is one at a byte position. -/
def Address.skipMark (bytes : List UInt8) (i : Nat) : Nat :=
  if bytes[i]? = some 36 then i + 1 else i

def Address.isLetterByte (b : UInt8) : Bool := (65 ≤ b && b ≤ 90) || (97 ≤ b && b ≤ 122)

/-- The position behind the letters that stand from a byte position on. -/
def Address.skipLetters (bytes : List UInt8) (i : Nat) : Nat :=
  i + ((bytes.drop i).takeWhile isLetterByte).length

/-- Read an address by byte positions. There is no answer if a part of the text is asked
for that does not begin and end between characters. -/
def Address.scan? (cs : List Char) : Option (Except SheetFault Address) :=
  let cs := Text.trim cs
  let text := String.ofList cs
  if cs.isEmpty then some (.error (.invalidAddress .empty))
  else
    let bytes := Text.bytes cs
    let start := skipMark bytes 0
    let stop := skipLetters bytes start
    if stop = start then some (.error (.invalidAddress (.noLetters text)))
    else
      (Text.slice? cs start stop).bind fun letters =>
        match columnOfLetters letters with
        | .error fault => some (.error fault)
        | .ok column =>
            (Text.cutAt? cs (skipMark bytes stop)).map fun parts =>
              match readRow text parts.2 with
              | .error fault => .error fault
              | .ok row => .ok ⟨row, column⟩

/-- Read two addresses around a colon, in any order, or one address. -/
def Range.parse (cs : List Char) : Except SheetFault Range :=
  let cs := Text.trim cs
  let read :=
    match Text.cut ':' cs with
    | some (first, last) =>
        match Address.parse first, Address.parse last with
        | .ok a, .ok b => some (Range.ofCorners a b)
        | _, _ => none
    | none =>
        match Address.parse cs with
        | .ok a => some (Range.single a)
        | .error _ => none
  match read with
  | some range => .ok range
  | none => .error (.invalidRange (String.ofList cs))

end TableBook
