import TableBook.Text.Digits

namespace TableBook

def maxRows : Nat := 1048576

/-- The greatest column of a sheet, written `XFD`. -/
def maxColumns : Nat := 16384

/-- Rows and columns count from 1. -/
structure Address where
  row : Nat
  column : Nat
deriving DecidableEq, Repr, Inhabited

namespace Address

/-- The letters of `column`; `fuel` bounds their number. -/
def lettersWithin : Nat → Nat → List Char
  | 0, _ => []
  | fuel + 1, column =>
      if column = 0 then []
      else
        lettersWithin fuel ((column - 1) / 26) ++
          [Char.ofNat ('A'.toNat + (column - 1) % 26)]

/-- The letters of a column; column 0 has none. -/
def columnLetters (column : Nat) : List Char := lettersWithin column column

/-- The letters of the column, then the row. -/
def text (a : Address) : String :=
  String.ofList (columnLetters a.column) ++ toString a.row

def InBounds (a : Address) : Prop :=
  1 ≤ a.row ∧ a.row ≤ maxRows ∧ 1 ≤ a.column ∧ a.column ≤ maxColumns

instance (a : Address) : Decidable a.InBounds := by
  unfold InBounds; infer_instance

end Address

end TableBook
