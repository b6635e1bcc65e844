import Mathlib.Data.List.MinMax
import Mathlib.Data.List.Sort
import Mathlib.Order.Bounds.Basic
import TableBook.Grid

namespace TableBook

namespace Address

/-- Row-major order. -/
def Before (a b : Address) : Prop := a.row < b.row ∨ (a.row = b.row ∧ a.column < b.column)

instance (a b : Address) : Decidable (a.Before b) := by
  unfold Before; infer_instance

theorem before_irrefl (a : Address) : ¬a.Before a := by
  simp [Before]

theorem Before.trans {a b c : Address} (h : a.Before b) (h' : b.Before c) : a.Before c := by
  simp only [Before] at *
  omega

theorem Before.ne {a b : Address} (h : a.Before b) : a ≠ b := by
  rintro rfl
  exact before_irrefl a h

theorem Before.of_column_le {a : Address} {row column column' : Nat}
    (h : a.Before ⟨row, column⟩) (hle : column ≤ column') : a.Before ⟨row, column'⟩ := by
  simp only [Before] at *
  omega

/-- A list in the row-major order of its addresses is known by its members. -/
theorem eq_of_pairwise_before_on {α : Type} (f : α → Address) {l₁ l₂ : List α}
    (h₁ : l₁.Pairwise fun x y => (f x).Before (f y))
    (h₂ : l₂.Pairwise fun x y => (f x).Before (f y)) (hmem : ∀ x, x ∈ l₁ ↔ x ∈ l₂) :
    l₁ = l₂ := by
  have hirrefl : Std.Irrefl fun x y => (f x).Before (f y) := ⟨fun x => before_irrefl (f x)⟩
  have hantisymm : Std.Antisymm fun x y => (f x).Before (f y) :=
    ⟨fun x y hxy hyx => absurd (hxy.trans hyx) (before_irrefl (f x))⟩
  exact h₁.eq_of_mem_iff h₂ hmem

theorem eq_of_pairwise_before {l₁ l₂ : List Address} (h₁ : l₁.Pairwise Before)
    (h₂ : l₂.Pairwise Before) (hmem : ∀ a, a ∈ l₁ ↔ a ∈ l₂) : l₁ = l₂ :=
  eq_of_pairwise_before_on id h₁ h₂ hmem

theorem find?_eq_of_pairwise_before {l₁ l₂ : List Address} {p q : Address → Bool}
    (h₁ : l₁.Pairwise Before) (h₂ : l₂.Pairwise Before)
    (hmem : ∀ a, a ∈ l₁ ∧ p a = true ↔ a ∈ l₂ ∧ q a = true) : l₁.find? p = l₂.find? q := by
  have hfilter : l₁.filter p = l₂.filter q := by
    apply eq_of_pairwise_before (h₁.filter p) (h₂.filter q)
    intro a
    rw [List.mem_filter, List.mem_filter, hmem]
  rw [← List.head?_filter, ← List.head?_filter, hfilter]

end Address

theorem Range.cells_pairwise (r : Range) : r.cells.Pairwise Address.Before := by
  rw [cells, firstCells, List.pairwise_map]
  apply List.pairwise_lt_range.imp
  intro i j hij
  simp only [cellAt, Address.Before]
  rcases Nat.lt_or_eq_of_le (Nat.div_le_div_right (c := r.columnCount) hij.le) with hrow | hrow
  · left
    omega
  · right
    have hi := Nat.div_add_mod i r.columnCount
    have hj := Nat.div_add_mod j r.columnCount
    rw [hrow] at hi
    constructor
    · rw [hrow]
    · omega

namespace Range

theorem nodup_cells (r : Range) : r.cells.Nodup := r.cells_pairwise.imp Address.Before.ne

end Range

section Extremes

variable {α β : Type} [LinearOrder β] {xs ys : List β}

theorem min?_eq_some_iff_isLeast {x : β} : xs.min? = some x ↔ IsLeast {y | y ∈ xs} x :=
  List.min?_eq_some_iff

theorem max?_eq_some_iff_isGreatest {x : β} : xs.max? = some x ↔ IsGreatest {y | y ∈ xs} x :=
  List.max?_eq_some_iff

theorem min?_congr (h : ∀ x, x ∈ xs ↔ x ∈ ys) : xs.min? = ys.min? := by
  apply Option.ext
  intro x
  simp only [min?_eq_some_iff_isLeast, h]

theorem max?_congr (h : ∀ x, x ∈ xs ↔ x ∈ ys) : xs.max? = ys.max? :=
  min?_congr (β := βᵒᵈ) h

theorem head?_eq_min? (h : xs.Pairwise (· < ·)) : xs.head? = xs.min? :=
  (List.min?_eq_head? (h.imp fun hlt => min_eq_left hlt.le)).symm

theorem getLast?_eq_max? (h : xs.Pairwise (· < ·)) : xs.getLast? = xs.max? := by
  have hreverse : xs.reverse.head? = xs.reverse.max? :=
    head?_eq_min? (β := βᵒᵈ) (List.pairwise_reverse.mpr h)
  rw [← List.head?_reverse, hreverse]
  exact max?_congr fun x => List.mem_reverse

/-- The least of the least members of some lists is the least member of all. -/
theorem min?_filterMap_min? (f : α → List β) (xs : List α) :
    (xs.filterMap fun x => (f x).min?).min? = (xs.flatMap f).min? := by
  apply Option.ext
  intro b
  simp only [min?_eq_some_iff_isLeast, List.mem_filterMap, List.mem_flatMap]
  constructor
  · rintro ⟨⟨x, hx, hmem, -⟩, hleast⟩
    refine ⟨⟨x, hx, hmem⟩, ?_⟩
    rintro c ⟨y, hy, hc⟩
    obtain ⟨m, hm⟩ := Option.isSome_iff_exists.mp (List.isSome_min?_of_mem hc)
    rw [min?_eq_some_iff_isLeast] at hm
    exact (hleast ⟨y, hy, hm⟩).trans (hm.2 hc)
  · rintro ⟨⟨x, hx, hmem⟩, hleast⟩
    refine ⟨⟨x, hx, hmem, fun c hc => hleast ⟨x, hx, hc⟩⟩, ?_⟩
    rintro c ⟨y, hy, hc, -⟩
    exact hleast ⟨y, hy, hc⟩

theorem max?_filterMap_max? (f : α → List β) (xs : List α) :
    (xs.filterMap fun x => (f x).max?).max? = (xs.flatMap f).max? :=
  min?_filterMap_min? (β := βᵒᵈ) f xs

theorem mem_eraseReps_loop {x y : β} {acc : List β} :
    x ∈ List.eraseRepsBy.loop (· == ·) y xs acc ↔ x ∈ acc ∨ x = y ∨ x ∈ xs := by
  induction xs generalizing y acc with
  | nil => simp [List.eraseRepsBy.loop, or_comm]
  | cons z rest ih =>
      rw [List.eraseRepsBy.loop]
      split
      · next heq =>
          obtain rfl : y = z := beq_iff_eq.mp heq
          rw [ih, List.mem_cons]
          tauto
      · rw [ih, List.mem_cons, List.mem_cons]
        tauto

theorem mem_eraseReps {x : β} : x ∈ xs.eraseReps ↔ x ∈ xs := by
  cases xs with
  | nil => rfl
  | cons y rest =>
      rw [List.mem_cons]
      exact mem_eraseReps_loop.trans (by simp)

theorem pairwise_eraseReps_loop {y : β} {acc : List β} (hacc : (y :: acc).Pairwise (· > ·))
    (h : (y :: xs).Pairwise (· ≤ ·)) :
    (List.eraseRepsBy.loop (· == ·) y xs acc).Pairwise (· < ·) := by
  induction xs generalizing y acc with
  | nil => exact List.pairwise_reverse.mpr hacc
  | cons z rest ih =>
      have htail := (List.pairwise_cons.mp h).2
      have hle : y ≤ z := (List.pairwise_cons.mp h).1 z List.mem_cons_self
      rw [List.eraseRepsBy.loop]
      split
      · next heq =>
          obtain rfl : y = z := beq_iff_eq.mp heq
          exact ih hacc htail
      · next hne =>
          have hlt : y < z := lt_of_le_of_ne hle (beq_eq_false_iff_ne.mp hne)
          refine ih (List.pairwise_cons.mpr ⟨?_, hacc⟩) htail
          intro x hx
          rcases List.mem_cons.mp hx with rfl | hx
          · exact hlt
          · exact ((List.pairwise_cons.mp hacc).1 x hx).trans hlt

theorem pairwise_eraseReps (h : xs.Pairwise (· ≤ ·)) : xs.eraseReps.Pairwise (· < ·) := by
  cases xs with
  | nil => exact .nil
  | cons y rest => exact pairwise_eraseReps_loop (List.pairwise_singleton ..) h

end Extremes

namespace Keyed

theorem keys_pairwise {α : Type} (m : Keyed Nat α) :
    m.entries.Pairwise fun e f => e.1 < f.1 :=
  m.ascending.imp fun h => Nat.compare_eq_lt.mp h

theorem keys_ascending {α : Type} (m : Keyed Nat α) : m.keys.Pairwise (· < ·) :=
  List.pairwise_map.mpr m.keys_pairwise

theorem between_eq_filter {α : Type} (m : Keyed Nat α) (first last : Nat) :
    m.between first last = m.entries.filter fun e => first ≤ e.1 && e.1 ≤ last := by
  refine List.filter_congr fun e _ => ?_
  rw [Bool.eq_iff_iff]
  simp [Nat.isLE_compare]

end Keyed

namespace Grid

theorem mem_cells_iff {g : Grid} {a : Address} {c : Cell} :
    (a, c) ∈ g.cells ↔ g.get? a = some c := by
  obtain ⟨row, column⟩ := a
  simp only [cells, List.mem_flatMap, List.mem_map, Prod.exists, Prod.mk.injEq,
    Address.mk.injEq, get?, Option.bind_eq_some_iff, Keyed.get?_eq_some_iff]
  constructor
  · rintro ⟨_, cells, hrow, _, _, hcell, ⟨rfl, rfl⟩, rfl⟩
    exact ⟨cells, hrow, hcell⟩
  · rintro ⟨cells, hrow, hcell⟩
    exact ⟨row, cells, hrow, column, c, hcell, ⟨rfl, rfl⟩, rfl⟩

theorem cells_pairwise (g : Grid) : g.cells.Pairwise fun x y => x.1.Before y.1 := by
  rw [cells, List.pairwise_flatMap]
  constructor
  · rintro ⟨row, cells⟩ -
    rw [List.pairwise_map]
    exact cells.keys_pairwise.imp fun h => .inr ⟨rfl, h⟩
  · refine g.rows.keys_pairwise.imp fun h x hx y hy => ?_
    obtain ⟨_, -, rfl⟩ := List.mem_map.mp hx
    obtain ⟨_, -, rfl⟩ := List.mem_map.mp hy
    exact .inl h

theorem map_cells_pairwise (g : Grid) : (g.cells.map (·.1)).Pairwise Address.Before :=
  List.pairwise_map.mpr g.cells_pairwise

theorem mem_map_cells_iff {g : Grid} {a : Address} :
    a ∈ g.cells.map (·.1) ↔ (g.get? a).isSome = true := by
  simp [List.mem_map, mem_cells_iff, Option.isSome_iff_exists]

theorem cellsIn_eq_filter (g : Grid) (r : Range) :
    g.cellsIn r = g.cells.filter fun e => r.contains e.1 := by
  simp only [cellsIn, cells, Keyed.between_eq_filter, List.filter_flatMap, List.filter_map]
  induction g.rows.entries with
  | nil => rfl
  | cons head rest ih =>
      simp only [List.flatMap_cons, List.filter_cons]
      split
      · next h =>
          simp only [Bool.and_eq_true, decide_eq_true_eq] at h
          rw [List.flatMap_cons, ih]
          congr 2
          refine List.filter_congr fun e he => ?_
          simp [Range.contains, h.1, h.2]
      · next h =>
          simp only [Bool.and_eq_true, decide_eq_true_eq] at h
          rw [ih, List.filter_eq_nil_iff.mpr, List.map_nil, List.nil_append]
          intro e _
          simp only [Function.comp_apply, Range.contains_iff]
          exact fun hin => h hin.1

theorem mem_cellsIn_iff {g : Grid} {r : Range} {a : Address} {c : Cell} :
    (a, c) ∈ g.cellsIn r ↔ g.get? a = some c ∧ r.contains a = true := by
  rw [cellsIn_eq_filter, List.mem_filter, mem_cells_iff]

theorem count_eq_length (g : Grid) : g.count = g.cells.length := by
  simp only [count, cells]
  induction g.rows.entries with
  | nil => rfl
  | cons head rest ih =>
      rw [List.foldr_cons, List.flatMap_cons, List.length_append, List.length_map, ih]
      rfl

theorem isEmpty_iff {g : Grid} : g.isEmpty = true ↔ g.cells = [] := by
  rw [isEmpty, Keyed.isEmpty, List.isEmpty_iff, cells, List.flatMap_eq_nil_iff]
  constructor
  · rintro h
    simp [h]
  · intro h
    rw [List.eq_nil_iff_forall_not_mem]
    intro e he
    exact g.occupied e he (List.map_eq_nil_iff.mp (h e he))

theorem mem_rowCells_iff {g : Grid} {row column : Nat} {c : Cell} :
    (column, c) ∈ g.rowCells row ↔ g.get? ⟨row, column⟩ = some c := by
  rw [rowCells, get?]
  cases g.rows.get? row with
  | none => simp
  | some cells => exact (cells.get?_eq_some_iff column c).symm

/-- A row lists what the listing of all cells has in it. -/
theorem rowCells_eq_filter (g : Grid) (row : Nat) :
    g.rowCells row =
      (g.cells.filter fun e => e.1.row = row).map fun e => (e.1.column, e.2) := by
  have hordered : (g.rowCells row).Pairwise fun x y => x.1 < y.1 := by
    rw [rowCells]
    cases g.rows.get? row with
    | none => exact .nil
    | some cells => exact cells.keys_pairwise
  have hplaced : (g.rowCells row).map (fun e => ((⟨row, e.1⟩ : Address), e.2)) =
      g.cells.filter fun e => e.1.row = row := by
    refine Address.eq_of_pairwise_before_on Prod.fst ?_ (g.cells_pairwise.filter _) ?_
    · rw [List.pairwise_map]
      exact hordered.imp fun h => .inr ⟨rfl, h⟩
    · rintro ⟨⟨row', column⟩, c⟩
      rw [List.mem_map, List.mem_filter, mem_cells_iff, decide_eq_true_eq]
      constructor
      · rintro ⟨⟨column', c'⟩, h, heq⟩
        cases heq
        exact ⟨mem_rowCells_iff.mp h, rfl⟩
      · rintro ⟨h, rfl⟩
        exact ⟨(column, c), mem_rowCells_iff.mpr h, rfl⟩
  rw [← hplaced, List.map_map]
  exact (List.map_id _).symm

theorem mem_map_coordinate_iff {g : Grid} (coordinate : Address → Nat) {x : Nat} :
    x ∈ g.cells.map (fun e => coordinate e.1) ↔
      ∃ a, (g.get? a).isSome = true ∧ coordinate a = x := by
  simp only [List.mem_map, Prod.exists, mem_cells_iff, Option.isSome_iff_exists]
  tauto

theorem map_column_cells (g : Grid) :
    g.cells.map (·.1.column) = g.rows.entries.flatMap fun row => row.2.keys := by
  rw [cells, List.map_flatMap]
  refine List.flatMap_congr fun row _ => ?_
  rw [List.map_map]
  rfl

theorem insertSorted_eq (n : Nat) (ns : List Nat) :
    insertSorted n ns = ns.orderedInsert (· ≤ ·) n := by
  induction ns with
  | nil => rfl
  | cons m rest ih => rw [insertSorted, List.orderedInsert, ih]

theorem sort_eq (ns : List Nat) : sort ns = ns.insertionSort (· ≤ ·) := by
  induction ns with
  | nil => rfl
  | cons n rest ih => rw [sort, List.insertionSort_cons, insertSorted_eq, ih]

/-- The columns in use are those of the flat listing, sorted and each of them once. -/
theorem usedColumns_eq (g : Grid) :
    g.usedColumns = ((g.cells.map (·.1.column)).insertionSort (· ≤ ·)).eraseReps := by
  rw [map_column_cells, usedColumns, sort_eq]

theorem usedColumns_pairwise (g : Grid) : g.usedColumns.Pairwise (· < ·) := by
  rw [usedColumns_eq]
  exact pairwise_eraseReps (List.pairwise_insertionSort (· ≤ ·) _)

/-- The columns in use are those of the stored cells. -/
theorem mem_usedColumns_iff {g : Grid} {column : Nat} :
    column ∈ g.usedColumns ↔ ∃ a, (g.get? a).isSome = true ∧ a.column = column := by
  rw [usedColumns_eq, mem_eraseReps, List.mem_insertionSort, mem_map_coordinate_iff Address.column]

theorem mem_keys_rows_iff {g : Grid} {row : Nat} :
    row ∈ g.rows.keys ↔ row ∈ g.cells.map (·.1.row) := by
  simp only [Keyed.keys, cells, List.map_flatMap, List.mem_flatMap, List.mem_map]
  constructor
  · rintro ⟨e, he, rfl⟩
    obtain ⟨c, hc⟩ := List.exists_mem_of_ne_nil _ (g.occupied e he)
    exact ⟨e, he, ⟨⟨e.1, c.1⟩, c.2⟩, ⟨c, hc, rfl⟩, rfl⟩
  · rintro ⟨e, he, x, ⟨c, -, rfl⟩, rfl⟩
    exact ⟨e, he, rfl⟩

/-- The bounds are those of the rows and of the columns of all stored cells. -/
theorem bounds_eq (g : Grid) :
    g.bounds =
      (g.cells.map (·.1.row)).min?.bind fun firstRow =>
        (g.cells.map (·.1.row)).max?.bind fun lastRow =>
          (g.cells.map (·.1.column)).min?.bind fun firstColumn =>
            (g.cells.map (·.1.column)).max?.bind fun lastColumn =>
              some (.ofCorners ⟨firstRow, firstColumn⟩ ⟨lastRow, lastColumn⟩) := by
  have hhead : ∀ {α : Type} (m : Keyed Nat α), m.keys.head? = m.keys.min? :=
    fun m => head?_eq_min? m.keys_ascending
  have hlast : ∀ {α : Type} (m : Keyed Nat α), m.keys.getLast? = m.keys.max? :=
    fun m => getLast?_eq_max? m.keys_ascending
  rw [← min?_congr fun _ => mem_keys_rows_iff, ← max?_congr fun _ => mem_keys_rows_iff]
  simp only [bounds, hhead, hlast, min?_filterMap_min?, max?_filterMap_max?, map_column_cells]
  rfl

theorem bounds_eq_none_iff {g : Grid} : g.bounds = none ↔ ∀ a, g.get? a = none := by
  have hnone : g.bounds = none ↔ g.cells = [] := by
    rw [bounds_eq]
    cases g.cells with
    | nil => simp
    | cons e rest => simp
  rw [hnone, ← List.map_eq_nil_iff (f := Prod.fst), List.eq_nil_iff_forall_not_mem]
  simp only [mem_map_cells_iff, Option.not_isSome_iff_eq_none]

theorem bounds_edges {g : Grid} {r : Range} (h : g.bounds = some r) :
    (IsLeast {row | row ∈ g.cells.map (·.1.row)} r.first.row ∧
      IsLeast {column | column ∈ g.cells.map (·.1.column)} r.first.column) ∧
    IsGreatest {row | row ∈ g.cells.map (·.1.row)} r.last.row ∧
      IsGreatest {column | column ∈ g.cells.map (·.1.column)} r.last.column := by
  rw [bounds_eq] at h
  obtain ⟨firstRow, hfirstRow, h⟩ := Option.bind_eq_some_iff.mp h
  obtain ⟨lastRow, hlastRow, h⟩ := Option.bind_eq_some_iff.mp h
  obtain ⟨firstColumn, hfirstColumn, h⟩ := Option.bind_eq_some_iff.mp h
  obtain ⟨lastColumn, hlastColumn, h⟩ := Option.bind_eq_some_iff.mp h
  rw [min?_eq_some_iff_isLeast] at hfirstRow hfirstColumn
  rw [max?_eq_some_iff_isGreatest] at hlastRow hlastColumn
  have hrow : firstRow ≤ lastRow := hlastRow.2 hfirstRow.1
  have hcolumn : firstColumn ≤ lastColumn := hlastColumn.2 hfirstColumn.1
  obtain rfl := Option.some.inj h
  simp only [Range.ofCorners, min_eq_left hrow, min_eq_left hcolumn, max_eq_right hrow,
    max_eq_right hcolumn]
  exact ⟨⟨hfirstRow, hfirstColumn⟩, hlastRow, hlastColumn⟩

/-- The bounds end at the last row and the last column in use. -/
theorem isGreatest_bounds {g : Grid} {r : Range} (h : g.bounds = some r) :
    IsGreatest {row | ∃ a, (g.get? a).isSome = true ∧ a.row = row} r.last.row ∧
      IsGreatest {column | ∃ a, (g.get? a).isSome = true ∧ a.column = column} r.last.column := by
  simp only [← mem_map_coordinate_iff Address.row, ← mem_map_coordinate_iff Address.column]
  exact (bounds_edges h).2

/-- The bounds start at the first row and the first column in use. -/
theorem isLeast_bounds {g : Grid} {r : Range} (h : g.bounds = some r) :
    IsLeast {row | ∃ a, (g.get? a).isSome = true ∧ a.row = row} r.first.row ∧
      IsLeast {column | ∃ a, (g.get? a).isSome = true ∧ a.column = column} r.first.column := by
  simp only [← mem_map_coordinate_iff Address.row, ← mem_map_coordinate_iff Address.column]
  exact (bounds_edges h).1

theorem get?_edit (g : Grid) (a b : Address) (fresh : Cell) (f : Cell → Cell) :
    (g.edit a fresh f).get? b =
      if b = a then some (f ((g.get? a).getD fresh)) else g.get? b :=
  get?_alter ..

end Grid

end TableBook
