import TableBook.Range.Walk
import TableBook.Table.Layout

namespace TableBook

/-- The sum of two words, if it is a word too. -/
def Text.addWords? (n m : Nat) : Option Nat :=
  if n + m < wordLimit then some (n + m) else none

/-- A row that is being written: the sheet so far, the column at which the cursor stands, and the
cells that are left. -/
structure RowCursor where
  sheet : Sheet
  column : Nat
  cells : List Element

namespace RowCursor

inductive Turn
  /-- No cell is left. -/
  | done (s : Sheet)
  | moved (c : RowCursor)
  /-- The next cell cannot be written. -/
  | refused (fault : TableFault)
  /-- A covered column is the greatest word, so there is none to go on to. -/
  | overflow
  /-- A cell is written, and the column behind it is no word. -/
  | pastWord

/-- What the writing of a row gives if the cursor stops. Running over gives nothing. -/
def Turn.result? : Turn → Option (Except TableFault Sheet)
  | .done s => some (.ok s)
  | .moved _ => none
  | .refused fault => some (.error fault)
  | .overflow => none
  | .pastWord => some (.error (.ofSheet (.columnOutOfBounds Merge.lastIndex)))

/-- Whether the cursor passes over the column at which it stands. -/
def Passes (context : Context) (row : Nat) (c : RowCursor) : Prop :=
  context.options.policy = .skipCovered ∧ (c.sheet.coveringMerge? ⟨row, c.column⟩).isSome = true

instance (context : Context) (row : Nat) (c : RowCursor) : Decidable (c.Passes context row) := by
  unfold Passes; infer_instance

def turn (context : Context) (row : Nat) (rowStyle : Option String) (c : RowCursor) : Turn :=
  match c.cells with
  | [] => .done c.sheet
  | cell :: cells =>
      if c.Passes context row then
        match Text.nextWord? c.column with
        | some column => .moved { c with column }
        | none => .overflow
      else
        match c.sheet.placeCell context cell ⟨row, c.column⟩ rowStyle with
        | .error fault => .refused fault
        | .ok s =>
            match Text.addWords? c.column cell.columnSpan with
            | some column => .moved ⟨s, column, cells⟩
            | none => .pastWord

end RowCursor

end TableBook
