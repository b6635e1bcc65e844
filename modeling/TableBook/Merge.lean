import TableBook.Range

namespace TableBook

/-- A merged region. What it covers, its anchor apart, holds no value. -/
structure Merge where
  anchor : Address
  columns : Nat
  rows : Nat
  columns_pos : 1 ≤ columns
  rows_pos : 1 ≤ rows
deriving DecidableEq, Repr

namespace Merge

/-- Spans below 1 are raised to 1. -/
def ofSpans (anchor : Address) (columns rows : Nat) : Merge :=
  ⟨anchor, max columns 1, max rows 1, by omega, by omega⟩

/-- The greatest index of a 32-bit word. -/
def lastIndex : Nat := Text.wordLimit - 1

/-- The last of `span` indices from `first`, if it fits a 32-bit word. -/
def endOf? (first span : Nat) : Option Nat :=
  let last := first + (span - 1)
  if last ≤ lastIndex then some last else none

def lastRow? (m : Merge) : Option Nat := endOf? m.anchor.row m.rows

def lastColumn? (m : Merge) : Option Nat := endOf? m.anchor.column m.columns

/-- The covered cells; an end that does not fit is cut to the last index. -/
def range (m : Merge) : Range :=
  .ofCorners m.anchor ⟨m.lastRow?.getD lastIndex, m.lastColumn?.getD lastIndex⟩

/-- Inside the region, and not its anchor. -/
def covers (m : Merge) (a : Address) : Bool := a ≠ m.anchor && m.range.contains a

def text (m : Merge) : String := m.range.text

end Merge

end TableBook
