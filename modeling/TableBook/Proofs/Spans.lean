import TableBook.Proofs.Sheet

namespace TableBook.Merge

variable {m n : Merge} {a : Address}

theorem max_endOf?_le_iff {first span bound : Nat} (hspan : 1 ≤ span) (hbound : bound < lastIndex) :
    max first ((endOf? first span).getD lastIndex) ≤ bound ↔ first + span ≤ bound + 1 := by
  simp only [endOf?]
  split
  · rw [Option.getD_some]
    omega
  · rw [Option.getD_none]
    omega

theorem max_endOf?_eq {first span bound : Nat} (hspan : 1 ≤ span) (hbound : bound < lastIndex)
    (h : first + span ≤ bound + 1) :
    max first ((endOf? first span).getD lastIndex) = first + (span - 1) ∧
      min first ((endOf? first span).getD lastIndex) = first := by
  have hend : endOf? first span = some (first + (span - 1)) := by
    simp only [endOf?]
    rw [if_pos]
    omega
  rw [hend, Option.getD_some]
  omega

def bottom (m : Merge) : Nat := m.anchor.row + m.rows - 1

def right (m : Merge) : Nat := m.anchor.column + m.columns - 1

def Occupies (m : Merge) (a : Address) : Prop :=
  (m.anchor.row ≤ a.row ∧ a.row ≤ m.bottom) ∧ m.anchor.column ≤ a.column ∧ a.column ≤ m.right

/-- The rectangles of two regions have a cell in common. -/
def Meets (m n : Merge) : Prop := ∃ a, m.Occupies a ∧ n.Occupies a

theorem last_row_le_iff : m.range.last.row ≤ maxRows ↔ m.bottom ≤ maxRows := by
  have hpos := m.rows_pos
  change max m.anchor.row (m.lastRow?.getD lastIndex) ≤ maxRows ↔ _
  rw [lastRow?, max_endOf?_le_iff hpos (by decide), bottom]
  omega

theorem last_column_le_iff : m.range.last.column ≤ maxColumns ↔ m.right ≤ maxColumns := by
  have hpos := m.columns_pos
  change max m.anchor.column (m.lastColumn?.getD lastIndex) ≤ maxColumns ↔ _
  rw [lastColumn?, max_endOf?_le_iff hpos (by decide), right]
  omega

theorem contains_iff_occupies (hbottom : m.bottom ≤ maxRows) (hright : m.right ≤ maxColumns) :
    m.range.contains a = true ↔ m.Occupies a := by
  have hrows := m.rows_pos
  have hcolumns := m.columns_pos
  rw [bottom] at hbottom
  rw [right] at hright
  have hendRow : m.anchor.row + m.rows ≤ maxRows + 1 := by omega
  have hendColumn : m.anchor.column + m.columns ≤ maxColumns + 1 := by omega
  obtain ⟨hlastRow, hfirstRow⟩ := max_endOf?_eq hrows (by decide) hendRow
  obtain ⟨hlastColumn, hfirstColumn⟩ := max_endOf?_eq hcolumns (by decide) hendColumn
  rw [Range.contains_iff]
  simp only [range, Range.ofCorners, lastRow?, lastColumn?, hlastRow, hfirstRow, hlastColumn,
    hfirstColumn, Occupies, bottom, right]
  omega

theorem overlaps_iff_meets (hm : m.bottom ≤ maxRows ∧ m.right ≤ maxColumns)
    (hn : n.bottom ≤ maxRows ∧ n.right ≤ maxColumns) :
    m.range.overlaps n.range = true ↔ m.Meets n := by
  rw [Range.overlaps_iff]
  apply exists_congr
  intro a
  rw [contains_iff_occupies hm.1 hm.2, contains_iff_occupies hn.1 hn.2]

end TableBook.Merge
