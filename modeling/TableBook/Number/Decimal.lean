import TableBook.Number.Binary64
import TableBook.Text.Digits

namespace TableBook

/-- The number `digits * 10 ^ exponent`, or its opposite. -/
structure Decimal where
  negative : Bool
  digits : Nat
  exponent : Int
deriving DecidableEq, Repr

namespace Decimal

/-- An optional sign, and the text after it. -/
def splitSign : List Char → Bool × List Char
  | '-' :: cs => (true, cs)
  | '+' :: cs => (false, cs)
  | cs => (false, cs)

/-- The power of ten that ends a number; nothing means the power zero. -/
def readExponent : List Char → Option Int
  | [] => some 0
  | c :: cs =>
      if c = 'e' ∨ c = 'E' then
        let (negative, digits) := splitSign cs
        if digits.isEmpty || !digits.all Char.isDigit then none
        else
          let power : Int := Text.natOfDigits digits
          some (if negative then -power else power)
      else none

/-- A number without a sign. Either side of the point may be empty, not both. -/
def readUnsigned (negative : Bool) (cs : List Char) : Option Decimal :=
  let whole := cs.takeWhile Char.isDigit
  let rest := cs.dropWhile Char.isDigit
  let (fraction, rest) := match rest with
    | '.' :: rest => (rest.takeWhile Char.isDigit, rest.dropWhile Char.isDigit)
    | rest => ([], rest)
  if whole.isEmpty && fraction.isEmpty then none
  else
    (readExponent rest).map fun power =>
      ⟨negative, Text.natOfDigits (whole ++ fraction), power - fraction.length⟩

def read (cs : List Char) : Option Decimal :=
  let (negative, rest) := splitSign cs
  readUnsigned negative rest

/-- Powers of ten beyond this one are out of the binary range. -/
def exponentLimit : Int := 400

/-- The nearest binary number. Very great and very small powers are settled
without writing them out. -/
def nearest (d : Decimal) : Binary64 :=
  if d.digits = 0 then .signedZero d.negative
  else if exponentLimit < d.exponent then .infinite d.negative
  else if d.exponent + (d.digits.log2 + 1) < -exponentLimit then .signedZero d.negative
  else if 0 ≤ d.exponent then .ofRatio d.negative (d.digits * Nat.pow 10 d.exponent.toNat) 1
  else .ofRatio d.negative d.digits (Nat.pow 10 (-d.exponent).toNat)

end Decimal

/-- The number a text writes, also as the words for infinity and for none, in
any case. -/
def Binary64.read (cs : List Char) : Option Binary64 :=
  let (negative, rest) := Decimal.splitSign cs
  let word := rest.map Char.toLower
  if word = "inf".toList ∨ word = "infinity".toList then some (.infinite negative)
  else if word = "nan".toList then some .nan
  else (Decimal.read cs).map Decimal.nearest

end TableBook
