import TableBook.Address

namespace TableBook

structure Range where
  first : Address
  last : Address
  row_le : first.row ≤ last.row
  column_le : first.column ≤ last.column
deriving DecidableEq, Repr

namespace Range

/-- The smallest range that contains two corners. -/
def ofCorners (a b : Address) : Range where
  first := ⟨min a.row b.row, min a.column b.column⟩
  last := ⟨max a.row b.row, max a.column b.column⟩
  row_le := by show min a.row b.row ≤ max a.row b.row; omega
  column_le := by show min a.column b.column ≤ max a.column b.column; omega

def single (a : Address) : Range := ⟨a, a, Nat.le_refl _, Nat.le_refl _⟩

def contains (r : Range) (a : Address) : Bool :=
  r.first.row ≤ a.row && a.row ≤ r.last.row &&
    r.first.column ≤ a.column && a.column ≤ r.last.column

def overlaps (r s : Range) : Bool :=
  r.first.row ≤ s.last.row && s.first.row ≤ r.last.row &&
    r.first.column ≤ s.last.column && s.first.column ≤ r.last.column

def rowCount (r : Range) : Nat := r.last.row - r.first.row + 1

def columnCount (r : Range) : Nat := r.last.column - r.first.column + 1

def count (r : Range) : Nat := r.rowCount * r.columnCount

/-- The cell at a position of the row-by-row order. -/
def cellAt (r : Range) (i : Nat) : Address :=
  ⟨r.first.row + i / r.columnCount, r.first.column + i % r.columnCount⟩

/-- The first `n` cells, row by row. -/
def firstCells (r : Range) (n : Nat) : List Address :=
  (List.range (min n r.count)).map r.cellAt

/-- All cells, row by row. -/
def cells (r : Range) : List Address := r.firstCells r.count

/-- The two corners, or the one address of a single cell. -/
def text (r : Range) : String :=
  if r.first = r.last then r.first.text else r.first.text ++ ":" ++ r.last.text

theorem columnCount_pos (r : Range) : 0 < r.columnCount := by
  simp [columnCount]

theorem contains_iff {r : Range} {a : Address} :
    r.contains a = true ↔
      (r.first.row ≤ a.row ∧ a.row ≤ r.last.row) ∧
        r.first.column ≤ a.column ∧ a.column ≤ r.last.column := by
  simp [contains, and_assoc]

theorem mem_cells_iff {r : Range} {a : Address} : a ∈ r.cells ↔ r.contains a = true := by
  have hpos := r.columnCount_pos
  have hrow := r.row_le
  have hcolumn := r.column_le
  simp only [cells, firstCells, Nat.min_self, List.mem_map, List.mem_range, contains_iff]
  constructor
  · rintro ⟨i, hi, rfl⟩
    simp only [cellAt]
    have hq : i / r.columnCount < r.rowCount := by
      rw [Nat.div_lt_iff_lt_mul hpos]
      exact hi
    have hm := Nat.mod_lt i hpos
    simp only [rowCount] at hq
    have hc : r.columnCount = r.last.column - r.first.column + 1 := rfl
    generalize i / r.columnCount = q at hq ⊢
    generalize i % r.columnCount = m at hm ⊢
    omega
  · rintro ⟨⟨h1, h2⟩, h3, h4⟩
    have hc : r.columnCount = r.last.column - r.first.column + 1 := rfl
    have hoffset : a.column - r.first.column < r.columnCount := by omega
    refine ⟨(a.row - r.first.row) * r.columnCount + (a.column - r.first.column), ?_, ?_⟩
    · have hle : a.row - r.first.row + 1 ≤ r.rowCount := by simp only [rowCount]; omega
      calc (a.row - r.first.row) * r.columnCount + (a.column - r.first.column)
          < (a.row - r.first.row) * r.columnCount + r.columnCount := by omega
        _ = (a.row - r.first.row + 1) * r.columnCount := by rw [Nat.add_mul, Nat.one_mul]
        _ ≤ r.rowCount * r.columnCount := Nat.mul_le_mul_right _ hle
    · have hdiv : ((a.row - r.first.row) * r.columnCount + (a.column - r.first.column)) /
          r.columnCount = a.row - r.first.row := by
        rw [Nat.mul_comm, Nat.mul_add_div hpos, Nat.div_eq_of_lt hoffset, Nat.add_zero]
      have hmod : ((a.row - r.first.row) * r.columnCount + (a.column - r.first.column)) %
          r.columnCount = a.column - r.first.column := by
        rw [Nat.mul_comm, Nat.mul_add_mod, Nat.mod_eq_of_lt hoffset]
      cases a
      simp only [cellAt, hdiv, hmod, Address.mk.injEq]
      simp only at h1 h3
      omega

theorem overlaps_iff {r s : Range} :
    r.overlaps s = true ↔ ∃ a, r.contains a = true ∧ s.contains a = true := by
  have hr := r.row_le
  have hr' := r.column_le
  have hs := s.row_le
  have hs' := s.column_le
  simp only [contains_iff]
  simp only [overlaps, Bool.and_eq_true, decide_eq_true_eq]
  constructor
  · intro h
    refine ⟨⟨max r.first.row s.first.row, max r.first.column s.first.column⟩, ?_⟩
    simp only
    omega
  · rintro ⟨a, ha⟩
    omega

theorem overlaps_comm (r s : Range) : r.overlaps s = s.overlaps r := by
  rw [Bool.eq_iff_iff, overlaps_iff, overlaps_iff]
  simp only [and_comm]

end Range

end TableBook
