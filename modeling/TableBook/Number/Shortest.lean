import TableBook.Number.Binary64

namespace TableBook

/-- The number `digits * 10 ^ exponent`, without a sign. -/
structure Shortest where
  digits : Nat
  exponent : Int
deriving DecidableEq, Repr

namespace Shortest

/-- The decimal points of one grid around a value, the value and the ends of
the interval that reads back to it, all over a common denominator. -/
structure Neighbours where
  low : Nat
  value : Nat
  high : Nat
  step : Nat
  endsBelong : Bool

/-- Whether a point of the grid reads back. -/
def Neighbours.holds (n : Neighbours) (digits : Nat) : Bool :=
  let point := digits * n.step
  if n.endsBelong then n.low ≤ point && point ≤ n.high
  else n.low < point && point < n.high

/-- The better of the two points next to the value, if one reads back. -/
def Neighbours.pick? (n : Neighbours) : Option Nat :=
  let below := n.value / n.step
  let nearer := if 2 * (n.value % n.step) < n.step then below else below + 1
  let other := if nearer = below then below + 1 else below
  if n.holds nearer then some nearer else if n.holds other then some other else none

/-- The interval of a rank on the grid of a power of ten. Ends lie halfway to
the neighbouring ranks, so everything is counted in half units. -/
def neighbours (rank : Nat) (exponent : Int) : Neighbours :=
  let low := Binary64.unitsOfRank (rank - 1) + Binary64.unitsOfRank rank
  let value := 2 * Binary64.unitsOfRank rank
  let high := Binary64.unitsOfRank rank + Binary64.unitsOfRank (rank + 1)
  let half := 2 * Binary64.one
  let scale := Nat.pow 10 (-exponent).toNat
  ⟨low * scale, value * scale, high * scale, half * Nat.pow 10 exponent.toNat, rank % 2 = 0⟩

def search (rank : Nat) : Nat → Int → Shortest
  | 0, exponent => ⟨((neighbours rank exponent).value / (neighbours rank exponent).step), exponent⟩
  | finer + 1, exponent =>
      match (neighbours rank exponent).pick? with
      | some digits => ⟨digits, exponent⟩
      | none => search rank finer (exponent - 1)

/-- A power of ten above the magnitude of a positive rank. -/
def topExponent (rank : Nat) : Int :=
  ((Binary64.unitsOfRank rank).log2 - 1073 : Int) * 30103 / 100000 + 1

/-- Seventeen digits always read back; the grid starts a little above. -/
def grids : Nat := 21

def dropZeros : Nat → Shortest → Shortest
  | 0, s => s
  | n + 1, s =>
      if s.digits ≠ 0 ∧ s.digits % 10 = 0 then dropZeros n ⟨s.digits / 10, s.exponent + 1⟩ else s

/-- The shortest decimal of a magnitude, without trailing zeros. -/
def ofRank (rank : Nat) : Shortest :=
  if rank = 0 then ⟨0, 0⟩ else dropZeros grids (search rank grids (topExponent rank))

/-- Digits with the point where it belongs, and no power of ten. -/
def positional (s : Shortest) : List Char :=
  let digits := (toString s.digits).toList
  if 0 ≤ s.exponent then digits ++ List.replicate s.exponent.toNat '0'
  else
    let places := (-s.exponent).toNat
    if places < digits.length then
      digits.take (digits.length - places) ++ '.' :: digits.drop (digits.length - places)
    else '0' :: '.' :: List.replicate (places - digits.length) '0' ++ digits

end Shortest

namespace Binary64

def signText (negative : Bool) : List Char := if negative then ['-'] else []

/-- The text of a number as a value prints it. -/
def text : Binary64 → String
  | .nan => "NaN"
  | .infinite negative => String.ofList (signText negative ++ "inf".toList)
  | .finite negative rank =>
      String.ofList (signText negative ++ (Shortest.ofRank rank).positional)

end Binary64

end TableBook
