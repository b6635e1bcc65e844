import TableBook.Cell
import TableBook.Keyed
import TableBook.Range

namespace TableBook

abbrev CellRow := Keyed Nat Cell

structure Grid where
  rows : Keyed Nat CellRow
  /-- No row is kept without a cell. -/
  occupied : ∀ e ∈ rows.entries, e.2.entries ≠ []

namespace Grid

@[ext] theorem ext {g h : Grid} (heq : g.rows = h.rows) : g = h := by
  cases g; cases h; simp_all

instance : DecidableEq Grid := fun g h =>
  decidable_of_iff (g.rows = h.rows) ⟨ext, fun h => h ▸ rfl⟩

def empty : Grid := ⟨∅, fun _ h => absurd h (List.not_mem_nil)⟩

instance : EmptyCollection Grid := ⟨empty⟩
instance : Inhabited Grid := ⟨∅⟩

def get? (g : Grid) (a : Address) : Option Cell :=
  (g.rows.get? a.row).bind (·.get? a.column)

/-- A row, unless it holds no cell. -/
def keepRow (row : CellRow) : Option CellRow := if row.entries = [] then none else some row

/-- Set, change or drop the cell at a position. -/
def alter (g : Grid) (a : Address) (f : Option Cell → Option Cell) : Grid where
  rows := g.rows.alter a.row fun row? => keepRow ((row?.getD ∅).alter a.column f)
  occupied := by
    intro e he
    rcases Keyed.mem_entries_alter he with h | ⟨-, h⟩
    · exact g.occupied e h
    · simp only [keepRow] at h
      split at h
      · simp at h
      · next hne => exact Option.some.inj h ▸ hne

def insert (g : Grid) (a : Address) (c : Cell) : Grid := g.alter a fun _ => some c

def erase (g : Grid) (a : Address) : Grid := g.alter a fun _ => none

/-- Change the cell at a position; a missing one starts out as `fresh`. -/
def edit (g : Grid) (a : Address) (fresh : Cell) (f : Cell → Cell) : Grid :=
  g.alter a fun c? => some (f (c?.getD fresh))

/-- Change the cell at a position if it is stored. -/
def editStored (g : Grid) (a : Address) (f : Cell → Cell) : Grid := g.alter a (·.map f)

/-- Give a cell a value and keep what else it has. -/
def setValue (g : Grid) (a : Address) (v : Value) : Grid := g.edit a {} (·.withValue v)

/-- All stored cells, row by row. -/
def cells (g : Grid) : List (Address × Cell) :=
  g.rows.entries.flatMap fun (row, cells) => cells.entries.map fun (column, c) => (⟨row, column⟩, c)

/-- The cells of one row by column. -/
def rowCells (g : Grid) (row : Nat) : List (Nat × Cell) := (g.rows.get? row).elim [] (·.entries)

def count (g : Grid) : Nat := g.rows.entries.foldr (fun row n => row.2.size + n) 0

def isEmpty (g : Grid) : Bool := g.rows.isEmpty

/-- The stored cells of a range, row by row. -/
def cellsIn (g : Grid) (r : Range) : List (Address × Cell) :=
  (g.rows.between r.first.row r.last.row).flatMap fun (row, cells) =>
    (cells.between r.first.column r.last.column).map fun (column, c) => (⟨row, column⟩, c)

/-- The range from the first to the last row in use, and from the least of the first columns of
these rows to the greatest of their last ones. -/
def bounds (g : Grid) : Option Range := do
  let firstRow ← g.rows.keys.head?
  let lastRow ← g.rows.keys.getLast?
  let firstColumn ← (g.rows.entries.filterMap fun row => row.2.keys.head?).min?
  let lastColumn ← (g.rows.entries.filterMap fun row => row.2.keys.getLast?).max?
  some (.ofCorners ⟨firstRow, firstColumn⟩ ⟨lastRow, lastColumn⟩)

/-- Put a number into an ascending list. -/
def insertSorted (n : Nat) : List Nat → List Nat
  | [] => [n]
  | m :: rest => if n ≤ m then n :: m :: rest else m :: insertSorted n rest

def sort : List Nat → List Nat
  | [] => []
  | n :: rest => insertSorted n (sort rest)

/-- The columns that hold a cell: those of all rows, sorted, and each of them once. -/
def usedColumns (g : Grid) : List Nat :=
  (sort (g.rows.entries.flatMap fun row => row.2.keys)).eraseReps

theorem get?_keepRow (row : CellRow) (column : Nat) :
    (keepRow row).bind (·.get? column) = row.get? column := by
  simp only [keepRow]
  split
  · next h =>
      rw [Keyed.ext (m := row) (n := ∅) (by rw [h]; rfl)]
      rfl
  · rfl

theorem get?_alter (g : Grid) (a b : Address) (f : Option Cell → Option Cell) :
    (g.alter a f).get? b = if b = a then f (g.get? a) else g.get? b := by
  obtain ⟨row, column⟩ := a
  obtain ⟨row', column'⟩ := b
  simp only [get?, alter, Keyed.get?_alter, Address.mk.injEq]
  by_cases hrow : row' = row
  · subst hrow
    simp only [if_true, true_and, get?_keepRow, Keyed.get?_alter]
    cases g.rows.get? row' with
    | none => rfl
    | some cells => rfl
  · simp [hrow]

end Grid

end TableBook
