import TableBook.Text.Composition.Table

namespace TableBook.Text

/-- The combining class, 0 for a character that starts a new cluster. -/
def combiningClass (n : Nat) : Nat :=
  if n < 0x300 then 0
  else
    (combiningClasses.findSome? fun run =>
      match run with
      | [first, last, value] => if first ≤ n ∧ n ≤ last then some value else none
      | _ => none).getD 0

namespace Hangul

def syllableBase : Nat := 0xAC00
def leadBase : Nat := 0x1100
def vowelBase : Nat := 0x1161
def tailBase : Nat := 0x11A7
def leadCount : Nat := 19
def vowelCount : Nat := 21
def tailCount : Nat := 28
def syllableCount : Nat := leadCount * vowelCount * tailCount

/-- The two or three jamo of a syllable. -/
def decompose? (n : Nat) : Option (List Nat) :=
  if syllableBase ≤ n ∧ n < syllableBase + syllableCount then
    let i := n - syllableBase
    let lead := leadBase + i / (vowelCount * tailCount)
    let vowel := vowelBase + i % (vowelCount * tailCount) / tailCount
    let tail := i % tailCount
    some (if tail = 0 then [lead, vowel] else [lead, vowel, tailBase + tail])
  else none

/-- A lead and a vowel, or a syllable without a tail and a tail. -/
def compose? (a b : Nat) : Option Nat :=
  if leadBase ≤ a ∧ a < leadBase + leadCount ∧ vowelBase ≤ b ∧ b < vowelBase + vowelCount then
    some (syllableBase + ((a - leadBase) * vowelCount + (b - vowelBase)) * tailCount)
  else if syllableBase ≤ a ∧ a < syllableBase + syllableCount ∧
      (a - syllableBase) % tailCount = 0 ∧ tailBase < b ∧ b < tailBase + tailCount then
    some (a + (b - tailBase))
  else none

end Hangul

/-- No decomposition is nested deeper. -/
def decompositionDepth : Nat := 4

def decomposeTo : Nat → Nat → List Nat
  | 0, n => [n]
  | depth + 1, n =>
      match Hangul.decompose? n with
      | some jamo => jamo
      | none =>
          match composites.find? (·.head? == some n) with
          | some [_, first, second] => decomposeTo depth first ++ [second]
          | _ =>
              match unstableCharacters.find? (·.head? == some n) with
              | some (_ :: parts) => parts
              | _ => [n]

def decompose (n : Nat) : List Nat :=
  if n < 0xC0 then [n] else decomposeTo decompositionDepth n

/-- Put a mark behind the marks of its class or a lower one. -/
def insertMark (n : Nat) : List Nat → List Nat
  | [] => [n]
  | m :: ms =>
      if combiningClass m ≤ combiningClass n then m :: insertMark n ms else n :: m :: ms

/-- Sort each run of marks by class; `marks` is the sorted run so far. -/
def orderMarks (marks : List Nat) : List Nat → List Nat
  | [] => marks
  | n :: ns =>
      if combiningClass n = 0 then marks ++ n :: orderMarks [] ns
      else orderMarks (insertMark n marks) ns

def compose? (a b : Nat) : Option Nat :=
  match Hangul.compose? a b with
  | some syllable => some syllable
  | none =>
      composites.findSome? fun entry =>
        match entry with
        | [composed, first, second] =>
            if first = a ∧ second = b then some composed else none
        | _ => none

/-- Compose after a starter: `between` are the characters kept since, in
reverse, and a mark of class no greater than theirs is blocked. -/
def composeAfter (starter : Nat) (between : List Nat) : List Nat → List Nat
  | [] => starter :: between.reverse
  | n :: ns =>
      let blocked :=
        match between.head? with
        | some last => combiningClass last == 0 || combiningClass n ≤ combiningClass last
        | none => false
      match if blocked then none else compose? starter n with
      | some composed => composeAfter composed between ns
      | none =>
          if combiningClass n = 0 then starter :: between.reverse ++ composeAfter n [] ns
          else composeAfter starter (n :: between) ns

/-- Marks that no starter precedes are kept. -/
def composeAll : List Nat → List Nat
  | [] => []
  | n :: ns => if combiningClass n = 0 then composeAfter n [] ns else n :: composeAll ns

/-- Normalization form C of a text. Below U+0300 nothing is left to do. -/
def nfc (cs : List Char) : List Char :=
  if cs.all (·.toNat < 0x300) then cs
  else (composeAll (orderMarks [] (cs.flatMap (decompose ·.toNat)))).map Char.ofNat

end TableBook.Text
