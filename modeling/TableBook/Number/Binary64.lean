/-!
Binary floating-point numbers of 64 bits, as exact arithmetic sees them: a
finite magnitude is a whole number of units of `2^-1074`, and every result is
rounded to the nearest magnitude, a tie to the even one.

Magnitudes are numbered in ascending order. Below `2^53` the rank of a
magnitude is its number of units; from there on every block of `2^52` ranks
doubles the distance between neighbours.
-/

namespace TableBook

/-- How many finite magnitudes there are. -/
abbrev Binary64.magnitudes : Nat := 2047 * Nat.pow 2 52

inductive Binary64
  | nan
  | infinite (negative : Bool)
  | finite (negative : Bool) (rank : Fin Binary64.magnitudes)
deriving DecidableEq, Repr

namespace Binary64

/-- The number of units in one. -/
abbrev one : Nat := Nat.pow 2 1074

/-- The magnitude of a rank, in units. -/
def unitsOfRank (rank : Nat) : Nat :=
  let block := Nat.pow 2 52
  if rank < 2 * block then rank else (block + rank % block) * Nat.pow 2 (rank / block - 1)

/-- `num / den` to the nearest whole number, a tie to the even one. -/
def roundEven (num den : Nat) : Nat :=
  let quotient := num / den
  let rest := 2 * (num % den)
  if rest < den then quotient
  else if den < rest then quotient + 1
  else quotient + quotient % 2

/-- By how many bits the spacing of the magnitudes around `num / den` units
exceeds one unit. -/
def spacingBits (num den : Nat) : Nat := (num / den).log2 - 52

/-- The magnitude nearest to `num / den` units, in units and without a bound. -/
def nearestUnits (num den : Nat) : Nat :=
  let spacing := Nat.pow 2 (spacingBits num den)
  roundEven num (den * spacing) * spacing

/-- The rank of the magnitude nearest to `num / den` units. -/
def nearestRank (num den : Nat) : Nat :=
  let bits := spacingBits num den
  bits * Nat.pow 2 52 + roundEven num (den * Nat.pow 2 bits)

/-- The number nearest to `num / den` units with the given sign. -/
def ofUnits (negative : Bool) (num den : Nat) : Binary64 :=
  let rank := nearestRank num den
  if h : rank < magnitudes then .finite negative ⟨rank, h⟩ else .infinite negative

/-- The number nearest to `num / den` with the given sign. -/
def ofRatio (negative : Bool) (num den : Nat) : Binary64 :=
  ofUnits negative (num * one) den

def ofInt (n : Int) : Binary64 := ofRatio (decide (n < 0)) n.natAbs 1

def ofRat (x : Rat) : Binary64 := ofRatio (decide (x < 0)) x.num.natAbs x.den

/-- The value nearest to an exact one, without a bound. -/
def nearest (x : Rat) : Rat :=
  let magnitude : Rat := nearestUnits (x.num.natAbs * one) x.den / one
  if x < 0 then -magnitude else magnitude

/-- Zero, of which there are two. -/
def signedZero (negative : Bool) : Binary64 := .finite negative ⟨0, by decide⟩

def zero : Binary64 := signedZero false

instance : Inhabited Binary64 := ⟨zero⟩

def isNan : Binary64 → Bool
  | .nan => true
  | _ => false

def isFinite : Binary64 → Bool
  | .finite .. => true
  | _ => false

/-- The units of a finite number without its sign. -/
def units? : Binary64 → Option (Bool × Nat)
  | .finite negative rank => some (negative, unitsOfRank rank)
  | _ => none

/-- The exact value of a finite number. -/
def toRat? (x : Binary64) : Option Rat :=
  x.units?.map fun (negative, units) =>
    let magnitude : Rat := units / one
    if negative then -magnitude else magnitude

/-- A position on the number line; the two zeros share one. -/
def position : Binary64 → Int
  | .nan => 0
  | .infinite negative => if negative then -(magnitudes : Int) else magnitudes
  | .finite negative rank => if negative then -(rank.val : Int) else rank.val

/-- Nothing is less than, or greater than, a number that is not one. -/
def less (x y : Binary64) : Bool :=
  !x.isNan && !y.isNan && decide (x.position < y.position)

def atMost (x y : Binary64) : Bool :=
  !x.isNan && !y.isNan && decide (x.position ≤ y.position)

/-- The smaller of two numbers; the other one if either is none. -/
def smaller (x y : Binary64) : Binary64 :=
  if x.isNan then y else if y.isNan then x else if x.position ≤ y.position then x else y

/-- The greater of two numbers; the other one if either is none. -/
def greater (x y : Binary64) : Binary64 :=
  if x.isNan then y else if y.isNan then x else if x.position ≤ y.position then y else x

def isPositive (x : Binary64) : Bool := zero.less x

/-- The 64 bits: the sign above the rank. -/
def toBits : Binary64 → Nat
  | .nan => 2047 * Nat.pow 2 52 + Nat.pow 2 51
  | .infinite negative => (if negative then Nat.pow 2 63 else 0) + magnitudes
  | .finite negative rank => (if negative then Nat.pow 2 63 else 0) + rank.val

end Binary64

end TableBook
