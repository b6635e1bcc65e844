namespace TableBook.Text

/-- The number that a run of ASCII digits writes. -/
def natOfDigits (cs : List Char) : Nat :=
  cs.foldl (fun n c => 10 * n + (c.toNat - '0'.toNat)) 0

/-- One more than the greatest number of a 32-bit word. -/
def wordLimit : Nat := Nat.pow 2 32

/-- A number of at most 32 bits written in digits only. -/
def readWord (cs : List Char) : Option Nat :=
  if cs.isEmpty || !cs.all Char.isDigit then none
  else
    let n := natOfDigits cs
    if n < wordLimit then some n else none

/-- A number of at most 32 bits that a plus sign may precede. -/
def readSignedWord : List Char → Option Nat
  | '+' :: cs => readWord cs
  | cs => readWord cs

/-- The digits of `n`, at least `width` of them. -/
def padDigits (width n : Nat) : List Char :=
  let digits := (toString n).toList
  List.replicate (width - digits.length) '0' ++ digits

end TableBook.Text
