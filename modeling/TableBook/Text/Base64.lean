namespace TableBook.Text.Base64

/-- What is wrong with an encoded text; positions count bytes. -/
inductive Fault
  | symbol (byte position : Nat)
  | length (count : Nat)
  | lastSymbol (byte position : Nat)
  | padding
deriving DecidableEq, Repr

def Fault.message : Fault → String
  | .symbol byte position => s!"Invalid symbol {byte}, offset {position}."
  | .length count => s!"Invalid input length: {count}"
  | .lastSymbol byte position => s!"Invalid last symbol {byte}, offset {position}."
  | .padding => "Invalid padding"

def pad : Nat := 61

/-- The six bits that a byte of the alphabet stands for. -/
def sextet? (byte : Nat) : Option Nat :=
  if 65 ≤ byte ∧ byte ≤ 90 then some (byte - 65)
  else if 97 ≤ byte ∧ byte ≤ 122 then some (byte - 71)
  else if 48 ≤ byte ∧ byte ≤ 57 then some (byte + 4)
  else if byte = 43 then some 62
  else if byte = 47 then some 63
  else none

def bytesOf (a b c d : Nat) : List Nat :=
  [a * 4 + b / 16, b % 16 * 16 + c / 4, c % 4 * 64 + d]

/-- The sextet at a position of the text. -/
def sextetAt (byte position : Nat) : Except Fault Nat :=
  match sextet? byte with
  | some sextet => .ok sextet
  | none => .error (.symbol byte position)

/-- The last group, of up to four bytes, at `position`. -/
def decodeLast (position : Nat) (group : List Nat) : Except Fault (List Nat) :=
  match group with
  | [] => .ok []
  | a :: group => do
      let x ← sextetAt a position
      match group with
      | [] => .error (.length (position + 1))
      | b :: group => do
          let y ← sextetAt b (position + 1)
          match group with
          | [] => .error .padding
          | [c] =>
              if c = pad then .error .padding
              else do
                let _ ← sextetAt c (position + 2)
                .error .padding
          | c :: d :: _ =>
              if c = pad then
                if d ≠ pad then .error (.symbol pad (position + 2))
                else if y % 16 ≠ 0 then .error (.lastSymbol b (position + 1))
                else .ok [x * 4 + y / 16]
              else do
                let z ← sextetAt c (position + 2)
                if d = pad then
                  if z % 4 ≠ 0 then .error (.lastSymbol c (position + 2))
                  else .ok [x * 4 + y / 16, y % 16 * 16 + z / 4]
                else do
                  let w ← sextetAt d (position + 3)
                  .ok (bytesOf x y z w)

/-- Groups of four; only the last one may be padded or cut short. -/
def decodeGroups (position : Nat) : List Nat → Except Fault (List Nat)
  | a :: b :: c :: d :: e :: rest => do
      let x ← sextetAt a position
      let y ← sextetAt b (position + 1)
      let z ← sextetAt c (position + 2)
      let w ← sextetAt d (position + 3)
      let bytes ← decodeGroups (position + 4) (e :: rest)
      .ok (bytesOf x y z w ++ bytes)
  | group => decodeLast position group

/-- The encoded bytes. A stray byte at the end of a text one byte too long is
reported before anything else. -/
def decode (text : List Nat) : Except Fault (List Nat) :=
  match if text.length % 4 = 1 then text.getLast? else none with
  | some last =>
      if last ≠ pad ∧ sextet? last = none then .error (.symbol last (text.length - 1))
      else decodeGroups 0 text
  | none => decodeGroups 0 text

end TableBook.Text.Base64
