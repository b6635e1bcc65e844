import TableBook.Range

namespace TableBook

/-- The number after a word, if it is a word too. -/
def Text.nextWord? (n : Nat) : Option Nat :=
  if n + 1 < wordLimit then some (n + 1) else none

namespace Range

/-- The range that is walked through, and the place of the next cell. -/
structure Walk where
  range : Range
  row : Nat
  column : Nat
deriving DecidableEq, Repr

/-- The walk that has not begun. -/
def walk (r : Range) : Walk := ⟨r, r.first.row, r.first.column⟩

namespace Walk

inductive Step
  | done
  | cell (a : Address) (rest : Walk)
  /-- A row or a column is counted past the greatest word. -/
  | overflow
deriving DecidableEq, Repr

def next (w : Walk) : Step :=
  if w.range.last.row < w.row then .done
  else
    match Text.nextWord? w.column with
    | none => .overflow
    | some column =>
        if w.range.last.column < column then
          match Text.nextWord? w.row with
          | none => .overflow
          | some row => .cell ⟨w.row, w.column⟩ ⟨w.range, row, w.range.first.column⟩
        else .cell ⟨w.row, w.column⟩ { w with column }

end Walk

end Range

end TableBook
