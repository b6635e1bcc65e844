import TableBook.Proofs.Grid
import TableBook.Range.Walk

namespace TableBook

theorem Text.nextWord?_eq_some {n : Nat} (h : n + 1 < wordLimit) : nextWord? n = some (n + 1) :=
  if_pos h

namespace Range

/-- The counters of a walk do not run over behind the last row and the last column. -/
structure Countable (r : Range) : Prop where
  row_lt : r.last.row + 1 < Text.wordLimit
  column_lt : r.last.column + 1 < Text.wordLimit

namespace Walk

/-- The cells that a walk meets until it is another one. -/
inductive Meets : Walk → List Address → Walk → Prop
  | nil (w : Walk) : Meets w [] w
  | cons {w rest last : Walk} {a : Address} {cells : List Address} :
      w.next = .cell a rest → Meets rest cells last → Meets w (a :: cells) last

/-- The walk before the cell at a position. -/
def before (r : Range) (i : Nat) : Walk := ⟨r, (r.cellAt i).row, (r.cellAt i).column⟩

variable {r : Range} {i n : Nat} {w : Walk} {cells : List Address}

theorem walk_eq_before (r : Range) : r.walk = before r 0 := by
  simp [walk, before, cellAt]

theorem cellAt_succ_of_last (h : r.last.column < (r.cellAt i).column + 1) :
    r.cellAt (i + 1) = ⟨(r.cellAt i).row + 1, r.first.column⟩ := by
  have hpos := r.columnCount_pos
  have hmod := Nat.mod_lt i hpos
  have hsplit := Nat.div_add_mod i r.columnCount
  -- The remainder is the greatest one, so the next position starts a new row.
  have hend : i % r.columnCount + 1 = r.columnCount := by
    have hcolumn := r.column_le
    simp only [columnCount, cellAt] at *
    omega
  have hnext : i + 1 = r.columnCount * (i / r.columnCount + 1) := by
    rw [Nat.mul_add, Nat.mul_one]
    omega
  have hdiv : (i + 1) / r.columnCount = i / r.columnCount + 1 := by
    rw [hnext, Nat.mul_div_cancel_left _ hpos]
  have hrest : (i + 1) % r.columnCount = 0 := by rw [hnext, Nat.mul_mod_right]
  simp only [cellAt, hdiv, hrest, Nat.add_zero, Nat.add_assoc]

theorem cellAt_succ_of_not_last (h : ¬r.last.column < (r.cellAt i).column + 1) :
    r.cellAt (i + 1) = ⟨(r.cellAt i).row, (r.cellAt i).column + 1⟩ := by
  have hpos := r.columnCount_pos
  have hsplit := Nat.div_add_mod i r.columnCount
  have hlt : i % r.columnCount + 1 < r.columnCount := by
    have hcolumn := r.column_le
    simp only [columnCount, cellAt] at *
    omega
  have hnext : i + 1 = r.columnCount * (i / r.columnCount) + (i % r.columnCount + 1) := by omega
  have hdiv : (i + 1) / r.columnCount = i / r.columnCount := by
    rw [hnext, Nat.mul_add_div hpos, Nat.div_eq_of_lt hlt, Nat.add_zero]
  have hrest : (i + 1) % r.columnCount = i % r.columnCount + 1 := by
    rw [hnext, Nat.mul_add_mod, Nat.mod_eq_of_lt hlt]
  simp only [cellAt, hdiv, hrest, Nat.add_assoc]

theorem row_cellAt_le (h : i < r.count) : (r.cellAt i).row ≤ r.last.row := by
  have hdiv : i / r.columnCount < r.rowCount := by
    rw [Nat.div_lt_iff_lt_mul r.columnCount_pos]
    exact h
  have hrow := r.row_le
  simp only [rowCount, cellAt] at *
  omega

theorem column_cellAt_le (r : Range) (i : Nat) : (r.cellAt i).column ≤ r.last.column := by
  have hmod := Nat.mod_lt i r.columnCount_pos
  have hcolumn := r.column_le
  simp only [columnCount, cellAt] at *
  omega

theorem next_before (hr : r.Countable) (h : i < r.count) :
    (before r i).next = .cell (r.cellAt i) (before r (i + 1)) := by
  have hrow := row_cellAt_le h
  have hcolumn := column_cellAt_le r i
  have hrowWord := hr.row_lt
  have hcolumnWord := hr.column_lt
  have hnextColumn : Text.nextWord? (r.cellAt i).column = some ((r.cellAt i).column + 1) :=
    Text.nextWord?_eq_some (by omega)
  have hnextRow : Text.nextWord? (r.cellAt i).row = some ((r.cellAt i).row + 1) :=
    Text.nextWord?_eq_some (by omega)
  simp only [next, before, hnextColumn, hnextRow, if_neg (Nat.not_lt.mpr hrow)]
  by_cases hend : r.last.column < (r.cellAt i).column + 1
  · rw [if_pos hend, cellAt_succ_of_last hend]
  · rw [if_neg hend, cellAt_succ_of_not_last hend]

theorem next_before_count (r : Range) : (before r r.count).next = .done := by
  have hdiv : r.count / r.columnCount = r.rowCount := Nat.mul_div_cancel _ r.columnCount_pos
  have hrow := r.row_le
  refine if_pos ?_
  simp only [before, cellAt, hdiv, rowCount]
  omega

theorem meets_before (hr : r.Countable) (h : i + n ≤ r.count) :
    Meets (before r i) ((List.range' i n).map r.cellAt) (before r (i + n)) := by
  induction n generalizing i with
  | zero => exact .nil _
  | succ n ih =>
      rw [List.range'_succ, List.map_cons]
      refine .cons (next_before hr (by omega)) ?_
      have hrest := ih (i := i + 1) (by omega)
      rwa [Nat.add_assoc, Nat.add_comm 1 n] at hrest

theorem meets_cells (hr : r.Countable) : Meets r.walk r.cells (before r r.count) := by
  have hcells : r.cells = (List.range' 0 r.count).map r.cellAt := by
    rw [Range.cells, firstCells, Nat.min_self, List.range_eq_range']
  rw [walk_eq_before, hcells]
  simpa only [Nat.zero_add] using meets_before hr (Nat.zero_add r.count).le

theorem Meets.eq_before {u : Walk} (h : Meets u cells w) (hr : r.Countable) (hu : u = before r i)
    (hi : i ≤ r.count) : i + cells.length ≤ r.count ∧ w = before r (i + cells.length) := by
  induction h generalizing i with
  | nil u => exact ⟨hi, hu⟩
  | @cons u rest last a cells hnext hrest ih =>
      subst hu
      -- The step is a function of the walk, so it is the one that is known at this position.
      rcases Nat.lt_or_eq_of_le hi with hlt | rfl
      · rw [next_before hr hlt, Step.cell.injEq] at hnext
        obtain ⟨hle, hlast⟩ := ih hnext.2.symm hlt
        rw [List.length_cons, Nat.add_comm cells.length 1, ← Nat.add_assoc]
        exact ⟨hle, hlast⟩
      · rw [next_before_count] at hnext
        cases hnext

theorem Meets.next_ne_overflow (h : Meets r.walk cells w) (hr : r.Countable) :
    w.next ≠ .overflow := by
  obtain ⟨hle, rfl⟩ := h.eq_before hr (walk_eq_before r) (Nat.zero_le _)
  intro hover
  rcases Nat.lt_or_eq_of_le hle with hlt | heq
  · rw [next_before hr hlt] at hover
    cases hover
  · rw [heq, next_before_count] at hover
    cases hover

end Walk

variable {r : Range}

theorem length_cells (r : Range) : r.cells.length = r.count := by
  rw [cells, firstCells, List.length_map, List.length_range, Nat.min_self]

theorem count_cells (r : Range) (a : Address) :
    r.cells.count a = if r.contains a = true then 1 else 0 := by
  split
  · next h => exact List.count_eq_one_of_mem r.nodup_cells (mem_cells_iff.mpr h)
  · next h => exact List.count_eq_zero.mpr fun hmem => h (mem_cells_iff.mp hmem)

theorem contains_ofCorners_iff {a b c : Address} :
    (ofCorners a b).contains c = true ↔
      (min a.row b.row ≤ c.row ∧ c.row ≤ max a.row b.row) ∧
        min a.column b.column ≤ c.column ∧ c.column ≤ max a.column b.column :=
  contains_iff

theorem ofCorners_comm (a b : Address) : ofCorners a b = ofCorners b a := by
  simp only [ofCorners, Nat.min_comm a.row, Nat.min_comm a.column, Nat.max_comm a.row,
    Nat.max_comm a.column]

/-- The geometry of a range whose last row and column have a next one in 32 bits. A walk through
the range meets every cell that the range contains exactly once, row by row, and then ends; on the
way no counter runs over. It meets as many cells as the range has rows times columns, and these
numbers fit 32 bits and their product 64. The range overlaps with another one, in either order,
if and only if some cell is in both. The range of two corners, in either order, contains both,
and lies inside every range that does. -/
theorem walk_meets (hr : r.Countable) (s : Range) :
    (∃ cells last, Walk.Meets r.walk cells last ∧ last.next = .done ∧
      (∀ a, cells.count a = if r.contains a = true then 1 else 0) ∧
      cells.Pairwise Address.Before ∧ cells = r.cells ∧ cells.length = r.count) ∧
    (∀ cells w, Walk.Meets r.walk cells w → w.next ≠ .overflow) ∧
    (r.count = r.rowCount * r.columnCount ∧ r.rowCount < Text.wordLimit ∧
      r.columnCount < Text.wordLimit ∧ r.count < Text.wordLimit * Text.wordLimit) ∧
    (r.overlaps s = true ↔ ∃ a, r.contains a = true ∧ s.contains a = true) ∧
    r.overlaps s = s.overlaps r ∧
    ∀ a b, ofCorners a b = ofCorners b a ∧
      (ofCorners a b).contains a = true ∧ (ofCorners a b).contains b = true ∧
      ∀ t : Range, t.contains a = true → t.contains b = true →
        ∀ c, (ofCorners a b).contains c = true → t.contains c = true := by
  have hrows : r.rowCount < Text.wordLimit := by
    have hlast := hr.row_lt
    simp only [rowCount]
    omega
  have hcolumns : r.columnCount < Text.wordLimit := by
    have hlast := hr.column_lt
    simp only [columnCount]
    omega
  refine ⟨⟨r.cells, _, Walk.meets_cells hr, Walk.next_before_count r, r.count_cells,
    r.cells_pairwise, rfl, r.length_cells⟩, fun cells w h => h.next_ne_overflow hr,
    ⟨rfl, hrows, hcolumns, Nat.mul_lt_mul'' hrows hcolumns⟩, overlaps_iff, overlaps_comm r s, ?_⟩
  refine fun a b => ⟨ofCorners_comm a b, ?_, ?_, fun t ha hb c hc => ?_⟩
  · rw [contains_ofCorners_iff]
    omega
  · rw [contains_ofCorners_iff]
    omega
  · rw [contains_ofCorners_iff] at hc
    rw [contains_iff] at *
    omega

/-- Four cells right below the greatest row number, with both corners the wrong way round. -/
theorem walk_meets_below_limit :
    let r := ofCorners ⟨4294967294, 2⟩ ⟨4294967293, 3⟩
    let s := ofCorners ⟨4294967294, 3⟩ ⟨4294967294, 3⟩
    (∃ cells last, Walk.Meets r.walk cells last ∧ last.next = .done ∧
      cells = [⟨4294967293, 2⟩, ⟨4294967293, 3⟩, ⟨4294967294, 2⟩, ⟨4294967294, 3⟩]) ∧
    r.overlaps s = true ∧ ∃ a, r.contains a = true ∧ s.contains a = true := by
  intro r s
  obtain ⟨⟨cells, last, hmeets, hdone, -, -, hcells, -⟩, -, -, hoverlaps, -, -⟩ :=
    walk_meets (r := r) ⟨by decide, by decide⟩ s
  have hshared : r.overlaps s = true := by decide
  exact ⟨⟨cells, last, hmeets, hdone, hcells.trans (by decide)⟩, hshared, hoverlaps.mp hshared⟩

end Range

end TableBook
