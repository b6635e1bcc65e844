import TableBook.Fault
import TableBook.Grid
import TableBook.Image
import TableBook.Page
import TableBook.Style.Pool

namespace TableBook

structure Column where
  width : Option Binary64 := none
  hidden : Bool := false
  autoSize : Bool := false
  /-- The place of the style that new cells of the column start from. -/
  style : Option Nat := none
deriving DecidableEq, Repr, Inhabited

def Column.isCustom (c : Column) : Bool :=
  c.width.isSome || c.hidden || c.autoSize || c.style.isSome

structure Row where
  height : Option Binary64 := none
  hidden : Bool := false
deriving DecidableEq, Repr, Inhabited

def Row.isCustom (r : Row) : Bool := r.height.isSome || r.hidden

structure Sheet where
  name : String
  grid : Grid := ∅
  pool : Pool := .new
  columns : Keyed Nat Column := ∅
  rows : Keyed Nat Row := ∅
  /-- In the order they were registered. -/
  merges : List Merge := []
  /-- In the order they were added. -/
  drawings : List Drawing := []
  /-- The first cell that scrolls. -/
  freeze : Option Address := none
  autoFilter : Option Range := none
  defaultWidth : Option Binary64 := none
  zoom : Option Nat := none
  tabColor : Option Color := none
  gridlines : Bool := true
  page : Page := {}

namespace Sheet

def new (name : String) : Sheet := { name }

instance : Inhabited Sheet := ⟨new ""⟩

def cell? (s : Sheet) (a : Address) : Option Cell := s.grid.get? a

/-- The value at a position; a cell that is not stored is empty. -/
def valueAt (s : Sheet) (a : Address) : Value := ((s.cell? a).map (·.value)).getD .null

/-- The place of a column's style, 0 if it has none. -/
def columnStyle (s : Sheet) (column : Nat) : Nat :=
  ((s.columns.get? column).bind (·.style)).getD 0

/-- The place of the style at a position: the cell's, else the column's. -/
def stylePlace (s : Sheet) (a : Address) : Nat :=
  match s.cell? a with
  | some c => c.style
  | none => s.columnStyle a.column

def styleAt (s : Sheet) (a : Address) : Style := s.pool.style (s.stylePlace a)

/-- The region that covers a position which is not its anchor. -/
def coveringMerge? (s : Sheet) (a : Address) : Option Merge := s.merges.find? (·.covers a)

/-- The smallest range that holds every stored cell. -/
def usedRange (s : Sheet) : Option Range := s.grid.bounds

def checkRow (row : Nat) : Except SheetFault Unit :=
  if 1 ≤ row ∧ row ≤ maxRows then .ok () else .error (.rowOutOfBounds row)

def checkColumn (column : Nat) : Except SheetFault Unit :=
  if 1 ≤ column ∧ column ≤ maxColumns then .ok () else .error (.columnOutOfBounds column)

/-- A cell may be written inside the bounds, unless a region covers it. -/
def checkWritable (s : Sheet) (a : Address) : Except SheetFault Unit := do
  checkRow a.row
  checkColumn a.column
  match s.coveringMerge? a with
  | some m => .error (.coveredCell a m.range)
  | none => .ok ()

/-- Change a cell. A new one starts from the style of its column. -/
def editCell (s : Sheet) (a : Address) (f : Cell → Cell) : Except SheetFault Sheet := do
  s.checkWritable a
  .ok { s with grid := s.grid.edit a { style := s.columnStyle a.column } f }

def setValue (s : Sheet) (a : Address) (v : Value) : Except SheetFault Sheet :=
  s.editCell a (·.withValue v)

/-- Store text that must stay text. -/
def setExplicitText (s : Sheet) (a : Address) (text : String) : Except SheetFault Sheet :=
  s.editCell a fun c => { c with value := .text text, explicit := true }

def setFormula (s : Sheet) (a : Address) (formula : String) : Except SheetFault Sheet :=
  s.setValue a (.ofFormula formula)

def setLink (s : Sheet) (a : Address) (link : Link) : Except SheetFault Sheet :=
  s.editCell a fun c => { c with link := some link }

def setComment (s : Sheet) (a : Address) (comment : Comment) : Except SheetFault Sheet :=
  s.editCell a fun c => { c with comment := some comment }

def setChoices (s : Sheet) (a : Address) (choices : Choices) : Except SheetFault Sheet :=
  s.editCell a fun c => { c with choices := some choices }

/-- Merge a style on top of that of a cell. -/
def styleCell (s : Sheet) (a : Address) (style : Style) : Except SheetFault Sheet := do
  s.checkWritable a
  let (place, pool) := s.pool.mergeInto (s.stylePlace a) style
  { s with pool }.editCell a fun c => { c with style := place }

/-- What an edit of many cells leaves: the sheet as far as the edit came, and
the fault that stopped it. -/
structure Attempt where
  sheet : Sheet
  fault : Option SheetFault := none

namespace Attempt

/-- An edit that leaves the sheet as it was when it fails. -/
def ofExcept (s : Sheet) : Except SheetFault Sheet → Attempt
  | .ok s => ⟨s, none⟩
  | .error fault => ⟨s, some fault⟩

def toExcept (attempt : Attempt) : Except SheetFault Sheet :=
  match attempt.fault with
  | none => .ok attempt.sheet
  | some fault => .error fault

/-- Go on unless a fault has stopped the edit. -/
def andThen (attempt : Attempt) (next : Sheet → Attempt) : Attempt :=
  match attempt.fault with
  | none => next attempt.sheet
  | some _ => attempt

end Attempt

def styleCells (s : Sheet) (style : Style) : List Address → Attempt
  | [] => ⟨s, none⟩
  | a :: rest =>
      (Attempt.ofExcept s (s.styleCell a style)).andThen fun s => s.styleCells style rest

/-- Style every cell of a range that no region covers. -/
def styleRange (s : Sheet) (range : Range) (style : Style) : Attempt :=
  s.styleCells style (range.cells.filter fun a => (s.coveringMerge? a).isNone)

def editColumn (s : Sheet) (column : Nat) (f : Column → Column) : Except SheetFault Sheet := do
  checkColumn column
  .ok { s with columns := s.columns.alter column fun c? => some (f (c?.getD {})) }

/-- Merge a style into that of a column; stored cells keep theirs. The style
enters the pool before the column is looked at. -/
def styleColumn (s : Sheet) (column : Nat) (style : Style) : Attempt :=
  let (place, pool) := s.pool.mergeInto (s.columnStyle column) style
  let pooled := { s with pool }
  .ofExcept pooled (pooled.editColumn column fun c => { c with style := some place })

/-- The addresses of the stored cells of a column. -/
def storedIn (s : Sheet) (column : Nat) : List Address :=
  (s.grid.cells.map (·.1)).filter (·.column == column)

/-- Style the stored cells of a column, then the column. -/
def styleWholeColumn (s : Sheet) (column : Nat) (style : Style) : Attempt :=
  (s.styleCells style (s.storedIn column)).andThen fun s => s.styleColumn column style

def setRowHeight (s : Sheet) (row : Nat) (height : Binary64) : Except SheetFault Sheet := do
  checkRow row
  .ok { s with rows := s.rows.alter row fun r? => some { r?.getD {} with height := some height } }

/-- Register a merged region. It shares no cell with another one, and what it
covers, its anchor apart, holds no value. -/
def merge (s : Sheet) (m : Merge) : Except SheetFault Sheet :=
  let range := m.range
  if maxRows < range.last.row then .error (.rowOutOfBounds range.last.row)
  else if maxColumns < range.last.column then .error (.columnOutOfBounds range.last.column)
  else
    match s.merges.find? fun other => other.range.overlaps range with
    | some existing => .error (.mergeConflict range existing.range)
    | none =>
        match (s.grid.cellsIn range).find? fun (a, c) => a ≠ m.anchor && c.hasValue with
        | some (a, _) => .error (.coveredCell a range)
        | none => .ok { s with merges := s.merges ++ [m] }

/-- Add an image; its index is the number of those before it. -/
def addDrawing (s : Sheet) (d : Drawing) : Sheet := { s with drawings := s.drawings ++ [d] }

end Sheet

structure Workbook where
  sheets : List Sheet := []

namespace Workbook

def push (w : Workbook) (s : Sheet) : Workbook := ⟨w.sheets ++ [s]⟩

def count (w : Workbook) : Nat := w.sheets.length

def isEmpty (w : Workbook) : Bool := w.sheets.isEmpty

def names (w : Workbook) : List String := w.sheets.map (·.name)

def sheet? (w : Workbook) (index : Nat) : Option Sheet := w.sheets[index]?

/-- The index of the first sheet with a name. -/
def indexOf? (w : Workbook) (name : String) : Option Nat := w.sheets.findIdx? (·.name == name)

def named? (w : Workbook) (name : String) : Option Sheet := w.sheets.find? (·.name == name)

/-- Put another sheet at an index that there is. -/
def replace (w : Workbook) (index : Nat) (s : Sheet) : Workbook := ⟨w.sheets.set index s⟩

end Workbook

end TableBook
