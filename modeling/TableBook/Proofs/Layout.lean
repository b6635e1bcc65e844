import Mathlib.Order.Bounds.Basic
import TableBook.Proofs.Spans
import TableBook.Table.Layout

namespace TableBook

/-- A cell of a table at its place. -/
structure Slot where
  cell : Element
  address : Address

theorem Reader.span_pos (value : Option String) : 1 ≤ Reader.span value := by
  rw [Reader.span]
  cases hread : value.bind Reader.leadingNumber with
  | none => exact Nat.le_refl 1
  | some n =>
      obtain ⟨text, -, hn⟩ := Option.bind_eq_some_iff.mp hread
      obtain ⟨-, hpos⟩ := Option.filter_eq_some_iff.mp hn
      exact of_decide_eq_true hpos

theorem Element.columnSpan_pos (cell : Element) : 1 ≤ cell.columnSpan := Reader.span_pos _

theorem Element.rowSpan_pos (cell : Element) : 1 ≤ cell.rowSpan := Reader.span_pos _

namespace Slot

variable {t u : Slot} {a : Address} {m : Merge}

/-- The rectangle of columns and rows that a cell takes up. -/
def Occupies (t : Slot) (a : Address) : Prop :=
  (t.address.row ≤ a.row ∧ a.row < t.address.row + t.cell.rowSpan) ∧
    t.address.column ≤ a.column ∧ a.column < t.address.column + t.cell.columnSpan

/-- In the rectangle of a cell, and not the place of the cell itself. -/
def Covers (t : Slot) (a : Address) : Prop := a ≠ t.address ∧ t.Occupies a

/-- The rectangles of two cells share nothing. -/
def Apart (t u : Slot) : Prop := ∀ a, ¬(t.Occupies a ∧ u.Occupies a)

/-- The region of a cell that takes up more than its own place. -/
def merge? (t : Slot) : Option Merge :=
  if 1 < t.cell.columnSpan ∨ 1 < t.cell.rowSpan then
    some (Merge.ofSpans t.address t.cell.columnSpan t.cell.rowSpan)
  else none

def Fits (t : Slot) : Prop :=
  t.address.InBounds ∧ t.address.row + t.cell.rowSpan ≤ maxRows + 1 ∧
    t.address.column + t.cell.columnSpan ≤ maxColumns + 1

theorem merge?_eq_some_iff :
    t.merge? = some m ↔ (1 < t.cell.columnSpan ∨ 1 < t.cell.rowSpan) ∧
      Merge.ofSpans t.address t.cell.columnSpan t.cell.rowSpan = m := by
  simp [merge?]

theorem eq_of_merge?_eq_none (h : t.merge? = none) (ha : t.Occupies a) : a = t.address := by
  obtain ⟨row, column⟩ := a
  obtain ⟨cell, ⟨_, _⟩⟩ := t
  have hspans : ¬(1 < cell.columnSpan ∨ 1 < cell.rowSpan) := by simpa [merge?] using h
  simp only [Occupies] at ha
  rw [Address.mk.injEq]
  omega

theorem anchor_eq (h : t.merge? = some m) : m.anchor = t.address := by
  obtain ⟨-, rfl⟩ := merge?_eq_some_iff.mp h
  rfl

theorem rows_eq (h : t.merge? = some m) : m.rows = t.cell.rowSpan := by
  obtain ⟨-, rfl⟩ := merge?_eq_some_iff.mp h
  exact Nat.max_eq_left t.cell.rowSpan_pos

theorem columns_eq (h : t.merge? = some m) : m.columns = t.cell.columnSpan := by
  obtain ⟨-, rfl⟩ := merge?_eq_some_iff.mp h
  exact Nat.max_eq_left t.cell.columnSpan_pos

/-- What ends inside the bounds was not cut off. -/
theorem last_le_iff (h : t.merge? = some m) :
    m.range.last.row ≤ maxRows ∧ m.range.last.column ≤ maxColumns ↔
      t.address.row + t.cell.rowSpan ≤ maxRows + 1 ∧
        t.address.column + t.cell.columnSpan ≤ maxColumns + 1 := by
  rw [Merge.last_row_le_iff, Merge.last_column_le_iff, Merge.bottom, Merge.right, anchor_eq h,
    rows_eq h, columns_eq h]
  omega

theorem contains_iff_occupies (hfits : t.Fits) (h : t.merge? = some m) :
    m.range.contains a = true ↔ t.Occupies a := by
  obtain ⟨hrow, hcolumn⟩ := (last_le_iff h).mpr hfits.2
  have hrowPos := t.cell.rowSpan_pos
  have hcolumnPos := t.cell.columnSpan_pos
  rw [Merge.contains_iff_occupies (Merge.last_row_le_iff.mp hrow)
    (Merge.last_column_le_iff.mp hcolumn)]
  rw [Merge.Occupies, Merge.bottom, Merge.right, anchor_eq h, rows_eq h, columns_eq h, Occupies]
  omega

theorem covers_iff (hfits : t.Fits) (h : t.merge? = some m) : m.covers a = true ↔ t.Covers a := by
  rw [Merge.covers_iff, anchor_eq h, contains_iff_occupies hfits h]
  rfl

/-- A rectangle reaches down and to the right only. -/
theorem not_occupies_of_before (h : t.address.Before u.address) : ¬u.Occupies t.address := by
  intro hoccupies
  simp only [Occupies] at hoccupies
  simp only [Address.Before] at h
  omega

end Slot

open Slot

/-- Where a cell may go in a row, from a column on: past everything that earlier
cells cover, or at that very column. -/
def MergePolicy.StandsAt (policy : MergePolicy) (earlier : List Slot) (row start column : Nat) :
    Prop :=
  match policy with
  | .skipCovered => IsLeast {k | start ≤ k ∧ ∀ t ∈ earlier, ¬t.Covers ⟨row, k⟩} column
  | .reject => column = start

/-- The cells of a row stand one after the other, each past the columns of the
one before. -/
inductive RowLayout (policy : MergePolicy) (row : Nat) :
    List Slot → Nat → List Element → List Slot → Prop
  | nil {earlier start} : RowLayout policy row earlier start [] []
  | cons {earlier start column cell cells slots}
      (hstands : policy.StandsAt earlier row start column)
      (hrest : RowLayout policy row (earlier ++ [⟨cell, ⟨row, column⟩⟩])
        (column + cell.columnSpan) cells slots) :
      RowLayout policy row earlier start (cell :: cells) (⟨cell, ⟨row, column⟩⟩ :: slots)

/-- The rows of a table stand one below the other, and each starts at column 1. -/
inductive TableLayout (policy : MergePolicy) :
    List Slot → Nat → List Element → List Slot → Prop
  | nil {earlier row} : TableLayout policy earlier row [] []
  | cons {earlier row e rows slots later}
      (hrow : RowLayout policy row earlier 1 e.rowCells slots)
      (hrest : TableLayout policy (earlier ++ slots) (row + 1) rows later) :
      TableLayout policy earlier row (e :: rows) (slots ++ later)

theorem MergePolicy.StandsAt.unique {policy : MergePolicy} {earlier : List Slot}
    {row start c c' : Nat} (h : policy.StandsAt earlier row start c)
    (h' : policy.StandsAt earlier row start c') : c = c' := by
  cases policy with
  | skipCovered => exact IsLeast.unique h h'
  | reject => exact Eq.trans h (Eq.symm h')

theorem MergePolicy.StandsAt.le {policy : MergePolicy} {earlier : List Slot}
    {row start column : Nat} (h : policy.StandsAt earlier row start column) : start ≤ column := by
  cases policy with
  | skipCovered => exact h.1.1
  | reject => exact Nat.le_of_eq (Eq.symm h)

namespace RowLayout

variable {policy : MergePolicy} {row start : Nat} {earlier slots slots' : List Slot}
  {cells : List Element}

theorem map_cell (h : RowLayout policy row earlier start cells slots) :
    slots.map Slot.cell = cells := by
  induction h with
  | nil => rfl
  | cons _ _ ih => rw [List.map_cons, ih]

theorem unique (h : RowLayout policy row earlier start cells slots)
    (h' : RowLayout policy row earlier start cells slots') : slots = slots' := by
  induction h generalizing slots' with
  | nil =>
      cases h'
      rfl
  | cons hstands _ ih =>
      cases h' with
      | cons hstands' hrest' =>
          obtain rfl := hstands.unique hstands'
          rw [ih hrest']

end RowLayout

namespace TableLayout

variable {policy : MergePolicy} {row : Nat} {earlier slots slots' : List Slot}
  {rows : List Element}

theorem map_cell (h : TableLayout policy earlier row rows slots) :
    slots.map Slot.cell = rows.flatMap Element.rowCells := by
  induction h with
  | nil => rfl
  | cons hrow _ ih => rw [List.map_append, List.flatMap_cons, hrow.map_cell, ih]

/-- The rule leaves no choice. -/
theorem unique (h : TableLayout policy earlier row rows slots)
    (h' : TableLayout policy earlier row rows slots') : slots = slots' := by
  induction h generalizing slots' with
  | nil =>
      cases h'
      rfl
  | cons hrow _ ih =>
      cases h' with
      | cons hrow' hrest' =>
          obtain rfl := hrow.unique hrow'
          rw [ih hrest']

end TableLayout

end TableBook
