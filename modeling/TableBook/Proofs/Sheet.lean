import TableBook.Proofs.Grid
import TableBook.Sheet

namespace TableBook

theorem bind_eq_ok_iff {ε α β : Type} {x : Except ε α} {f : α → Except ε β} {b : β} :
    x >>= f = .ok b ↔ ∃ a, x = .ok a ∧ f a = .ok b := by
  cases x <;> simp [bind, Except.bind]

theorem check_bind_eq_ok_iff {ε β : Type} {check : Except ε Unit} {y : Except ε β} {b : β} :
    (check >>= fun _ => y) = .ok b ↔ check = .ok () ∧ y = .ok b := by
  rw [bind_eq_ok_iff]
  exact ⟨fun ⟨_, h⟩ => h, fun h => ⟨(), h⟩⟩

theorem bind_eq_error_iff {ε α β : Type} {x : Except ε α} {f : α → Except ε β} {e : ε} :
    x >>= f = .error e ↔ x = .error e ∨ ∃ a, x = .ok a ∧ f a = .error e := by
  cases x <;> simp [bind, Except.bind]

theorem toOption_eq_some_iff {ε α : Type} {x : Except ε α} {a : α} :
    x.toOption = some a ↔ x = .ok a := by
  cases x <;> simp [Except.toOption]

/-- What a successful run gives, from one view of it. -/
theorem exists_ok_of_map_toOption {ε α β : Type} {x : Except ε α} {f : α → β} {b : β}
    (h : x.toOption.map f = some b) : ∃ a, x = .ok a ∧ f a = b := by
  obtain ⟨a, ha, hb⟩ := Option.map_eq_some_iff.mp h
  exact ⟨a, toOption_eq_some_iff.mp ha, hb⟩

theorem mapError_eq_ok_iff {ε δ α : Type} {f : ε → δ} {x : Except ε α} {a : α} :
    x.mapError f = .ok a ↔ x = .ok a := by
  cases x <;> simp [Except.mapError]

theorem mapError_eq_error_iff {ε δ α : Type} {f : ε → δ} {x : Except ε α} {e : δ} :
    x.mapError f = .error e ↔ ∃ fault, x = .error fault ∧ f fault = e := by
  cases x <;> simp [Except.mapError]

theorem mapM_eq_ok {α β ε : Type} {f : α → Except ε β} {g : α → β} {l : List α}
    (h : ∀ x ∈ l, f x = .ok (g x)) : l.mapM f = .ok (l.map g) := by
  induction l with
  | nil => rfl
  | cons x rest ih =>
      rw [List.forall_mem_cons] at h
      rw [List.mapM_cons, h.1, ih h.2]
      rfl

namespace Merge

theorem contains_anchor (m : Merge) : m.range.contains m.anchor = true := by
  rw [Range.contains_iff]
  simp only [range, Range.ofCorners]
  omega

theorem covers_iff {m : Merge} {a : Address} :
    m.covers a = true ↔ a ≠ m.anchor ∧ m.range.contains a = true := by
  simp [covers]

end Merge

namespace Sheet

variable {s t : Sheet} {a : Address}

def Writable (s : Sheet) (a : Address) : Prop := a.InBounds ∧ s.coveringMerge? a = none

theorem coveringMerge?_eq_none_iff :
    s.coveringMerge? a = none ↔ ∀ m ∈ s.merges, m.covers a = false := by
  simp [coveringMerge?]

theorem isSome_coveringMerge?_iff :
    (s.coveringMerge? a).isSome = true ↔ ∃ m ∈ s.merges, m.covers a = true := by
  simp [coveringMerge?]

theorem mem_and_covers_of_coveringMerge? {m : Merge} (h : s.coveringMerge? a = some m) :
    m ∈ s.merges ∧ m.covers a = true :=
  ⟨List.mem_of_find?_eq_some h, List.find?_some (p := fun m : Merge => m.covers a) h⟩

theorem checkRow_eq_ok_iff {row : Nat} : checkRow row = .ok () ↔ 1 ≤ row ∧ row ≤ maxRows := by
  simp [checkRow]

theorem checkColumn_eq_ok_iff {column : Nat} :
    checkColumn column = .ok () ↔ 1 ≤ column ∧ column ≤ maxColumns := by
  simp [checkColumn]

theorem checkWritable_eq_ok_iff : s.checkWritable a = .ok () ↔ s.Writable a := by
  simp only [checkWritable, check_bind_eq_ok_iff, checkRow_eq_ok_iff, checkColumn_eq_ok_iff,
    Writable, Address.InBounds]
  cases s.coveringMerge? a <;> simp [and_assoc]

/-- A place inside the bounds refuses a write only where a region covers it. -/
theorem checkWritable_eq_coveredCell_iff {b : Address} {region : Range} :
    s.checkWritable a = .error (.coveredCell b region) ↔
      a.InBounds ∧ b = a ∧ ∃ m, s.coveringMerge? a = some m ∧ m.range = region := by
  simp only [checkWritable, checkRow, checkColumn, Address.InBounds]
  by_cases hrow : 1 ≤ a.row ∧ a.row ≤ maxRows
  · by_cases hcolumn : 1 ≤ a.column ∧ a.column ≤ maxColumns
    · cases s.coveringMerge? a <;> simp [hrow, hcolumn, bind, Except.bind, eq_comm]
    · simp only [hrow, hcolumn, bind, Except.bind]
      grind
  · simp only [hrow, bind, Except.bind]
    grind

def withPool (s : Sheet) (pool : Pool) : Sheet := { s with pool }

def changeCell (s : Sheet) (a : Address) (f : Cell → Cell) : Sheet :=
  { s with grid := s.grid.edit a { style := s.columnStyle a.column } f }

def changeColumn (s : Sheet) (column : Nat) (f : Column → Column) : Sheet :=
  { s with columns := s.columns.alter column fun c? => some (f (c?.getD {})) }

/-- The cell that an edit at a position starts from. -/
def cellOrFresh (s : Sheet) (a : Address) : Cell :=
  (s.cell? a).getD { style := s.columnStyle a.column }

def columnOrFresh (s : Sheet) (column : Nat) : Column := (s.columns.get? column).getD {}

theorem valueAt_eq_iff {v : Value} (hv : v ≠ .null) :
    s.valueAt a = v ↔ ∃ c, s.cell? a = some c ∧ c.value = v := by
  rw [valueAt]
  cases s.cell? a with
  | none => simpa using hv.symm
  | some c => simp

theorem cell?_changeCell (s : Sheet) (a b : Address) (f : Cell → Cell) :
    (s.changeCell a f).cell? b = if b = a then some (f (s.cellOrFresh a)) else s.cell? b :=
  Grid.get?_edit ..

theorem get?_changeColumn (s : Sheet) (column k : Nat) (f : Column → Column) :
    (s.changeColumn column f).columns.get? k =
      if k = column then some (f (s.columnOrFresh column)) else s.columns.get? k :=
  Keyed.get?_alter ..

theorem editCell_eq (s : Sheet) (a : Address) (f : Cell → Cell) :
    s.editCell a f = s.checkWritable a >>= fun _ => .ok (s.changeCell a f) := rfl

theorem editCell_eq_ok_iff {f : Cell → Cell} :
    s.editCell a f = .ok t ↔ s.Writable a ∧ t = s.changeCell a f := by
  rw [editCell_eq, check_bind_eq_ok_iff, checkWritable_eq_ok_iff, Except.ok.injEq,
    eq_comm (a := t)]

theorem editCell_eq_error_iff {f : Cell → Cell} {fault : SheetFault} :
    s.editCell a f = .error fault ↔ s.checkWritable a = .error fault := by
  rw [editCell_eq, bind_eq_error_iff]
  simp

def cellMerge (s : Sheet) (a : Address) (style : Style) : Nat × Pool :=
  s.pool.mergeInto (s.stylePlace a) style

def restyleCell (s : Sheet) (a : Address) (style : Style) : Sheet :=
  (s.withPool (s.cellMerge a style).2).changeCell a fun c =>
    { c with style := (s.cellMerge a style).1 }

theorem styleCell_eq (s : Sheet) (a : Address) (style : Style) :
    s.styleCell a style = s.checkWritable a >>= fun _ => .ok (s.restyleCell a style) := by
  have hcheck : (s.withPool (s.cellMerge a style).2).checkWritable a = s.checkWritable a := rfl
  change (s.checkWritable a >>= fun _ =>
    (s.withPool (s.cellMerge a style).2).editCell a _) = _
  rw [editCell_eq, hcheck]
  cases s.checkWritable a <;> rfl

theorem styleCell_eq_ok_iff {style : Style} :
    s.styleCell a style = .ok t ↔ s.Writable a ∧ t = s.restyleCell a style := by
  rw [styleCell_eq, check_bind_eq_ok_iff, checkWritable_eq_ok_iff, Except.ok.injEq,
    eq_comm (a := t)]

theorem editColumn_eq (s : Sheet) (column : Nat) (f : Column → Column) :
    s.editColumn column f = checkColumn column >>= fun _ => .ok (s.changeColumn column f) := rfl

theorem editColumn_eq_ok_iff {column : Nat} {f : Column → Column} :
    s.editColumn column f = .ok t ↔
      (1 ≤ column ∧ column ≤ maxColumns) ∧ t = s.changeColumn column f := by
  rw [editColumn_eq, check_bind_eq_ok_iff, checkColumn_eq_ok_iff, Except.ok.injEq,
    eq_comm (a := t)]

/-- An edit that is checked and then leaves one sheet, as an attempt. -/
theorem Attempt.ofExcept_cases {s t : Sheet} {P : Prop} {result : Except SheetFault Sheet}
    (hok : ∀ {u}, result = .ok u ↔ P ∧ u = t) :
    P ∧ ofExcept s result = ⟨t, none⟩ ∨
      ¬P ∧ ∃ fault, result = .error fault ∧ ofExcept s result = ⟨s, some fault⟩ := by
  cases result with
  | ok u =>
      obtain ⟨hP, rfl⟩ := hok.mp rfl
      exact .inl ⟨hP, rfl⟩
  | error fault =>
      refine .inr ⟨?_, fault, rfl, rfl⟩
      intro hP
      have hfail : Except.error fault = .ok t := hok.mpr ⟨hP, rfl⟩
      cases hfail

theorem toExcept_ofExcept (s : Sheet) (result : Except SheetFault Sheet) :
    (Attempt.ofExcept s result).toExcept = result := by
  cases result <;> rfl

def columnMerge (s : Sheet) (column : Nat) (style : Style) : Nat × Pool :=
  s.pool.mergeInto (s.columnStyle column) style

theorem styleColumn_eq (s : Sheet) (column : Nat) (style : Style) :
    s.styleColumn column style = .ofExcept (s.withPool (s.columnMerge column style).2)
      ((s.withPool (s.columnMerge column style).2).editColumn column fun c =>
        { c with style := some (s.columnMerge column style).1 }) := rfl

theorem setRowHeight_eq_ok_iff {row : Nat} {height : Binary64} :
    s.setRowHeight row height = .ok t ↔
      (1 ≤ row ∧ row ≤ maxRows) ∧
        t = { s with
          rows := s.rows.alter row fun r? => some { r?.getD {} with height := some height } } := by
  rw [setRowHeight, check_bind_eq_ok_iff, checkRow_eq_ok_iff, Except.ok.injEq, eq_comm (a := t)]

structure Mergeable (s : Sheet) (m : Merge) : Prop where
  row_le : m.range.last.row ≤ maxRows
  column_le : m.range.last.column ≤ maxColumns
  apart : ∀ other ∈ s.merges, other.range.overlaps m.range = false
  empty : ∀ a c, s.cell? a = some c → m.covers a = true → c.value = .null

/-- What registering a region can give; the checks come in this order. -/
inductive MergeOutcome (s : Sheet) (m : Merge) : Except SheetFault Sheet → Prop
  | row (hrow : maxRows < m.range.last.row) :
      MergeOutcome s m (.error (.rowOutOfBounds m.range.last.row))
  | column (hrow : m.range.last.row ≤ maxRows) (hcolumn : maxColumns < m.range.last.column) :
      MergeOutcome s m (.error (.columnOutOfBounds m.range.last.column))
  | region {other : Merge} (hrow : m.range.last.row ≤ maxRows)
      (hcolumn : m.range.last.column ≤ maxColumns) (hother : other ∈ s.merges)
      (hoverlaps : other.range.overlaps m.range = true) :
      MergeOutcome s m (.error (.mergeConflict m.range other.range))
  | value {cell : Address} {c : Cell} (hrow : m.range.last.row ≤ maxRows)
      (hcolumn : m.range.last.column ≤ maxColumns)
      (hapart : ∀ other ∈ s.merges, other.range.overlaps m.range = false)
      (hcell : s.cell? cell = some c) (hcovers : m.covers cell = true) (hvalue : c.value ≠ .null) :
      MergeOutcome s m (.error (.coveredCell cell m.range))
  | registered (h : s.Mergeable m) : MergeOutcome s m (.ok { s with merges := s.merges ++ [m] })

theorem mergeOutcome (s : Sheet) (m : Merge) : s.MergeOutcome m (s.merge m) := by
  rw [merge]
  dsimp only
  split
  · next hrow => exact .row hrow
  next hrow =>
    split
    · next hcolumn => exact .column (Nat.not_lt.mp hrow) hcolumn
    next hcolumn =>
      split
      · next other hfind =>
          exact .region (Nat.not_lt.mp hrow) (Nat.not_lt.mp hcolumn)
            (List.mem_of_find?_eq_some hfind)
            (List.find?_some (p := fun other : Merge => other.range.overlaps m.range) hfind)
      next hnone =>
        have hapart : ∀ other ∈ s.merges, other.range.overlaps m.range = false := by
          simpa using hnone
        split
        · next a c hfind =>
            have hmem := Grid.mem_cellsIn_iff.mp (List.mem_of_find?_eq_some hfind)
            have hfound := List.find?_some hfind
            simp only [Bool.and_eq_true, decide_eq_true_eq, Cell.hasValue, Value.isNull,
              Bool.not_eq_true', beq_eq_false_iff_ne] at hfound
            exact .value (Nat.not_lt.mp hrow) (Nat.not_lt.mp hcolumn) hapart hmem.1
              (Merge.covers_iff.mpr ⟨hfound.1, hmem.2⟩) hfound.2
        · next hnone =>
            refine .registered ⟨Nat.not_lt.mp hrow, Nat.not_lt.mp hcolumn, hapart, ?_⟩
            simp only [List.find?_eq_none, Prod.forall, Grid.mem_cellsIn_iff, Cell.hasValue,
              Value.isNull, Bool.and_eq_true, decide_eq_true_eq, Bool.not_eq_true',
              beq_eq_false_iff_ne] at hnone
            intro a c hcell hcovers
            obtain ⟨hne, hin⟩ := Merge.covers_iff.mp hcovers
            by_contra hvalue
            exact hnone a c ⟨hcell, hin⟩ ⟨hne, hvalue⟩

theorem merge_eq_ok_iff {m : Merge} :
    s.merge m = .ok t ↔ s.Mergeable m ∧ t = { s with merges := s.merges ++ [m] } := by
  have houtcome := s.mergeOutcome m
  constructor
  · intro h
    rw [h] at houtcome
    cases houtcome with
    | registered hm => exact ⟨hm, rfl⟩
  · rintro ⟨hm, rfl⟩
    generalize s.merge m = result at houtcome
    cases houtcome with
    | row hrow => exact absurd hm.row_le (Nat.not_le.mpr hrow)
    | column _ hcolumn => exact absurd hm.column_le (Nat.not_le.mpr hcolumn)
    | region _ _ hother hoverlaps =>
        rw [hm.apart _ hother] at hoverlaps
        exact absurd hoverlaps Bool.false_ne_true
    | value _ _ _ hcell hcovers hvalue => exact absurd (hm.empty _ _ hcell hcovers) hvalue
    | registered => rfl

/-- The cell that keeps a region out is stored there, and not at its anchor. -/
theorem covers_of_merge_eq_coveredCell {m : Merge} {b : Address} {region : Range}
    (h : s.merge m = .error (.coveredCell b region)) :
    m.covers b = true ∧ (s.cell? b).isSome = true := by
  have houtcome := s.mergeOutcome m
  rw [h] at houtcome
  cases houtcome with
  | value _ _ _ hcell hcovers =>
      rw [hcell]
      exact ⟨hcovers, rfl⟩

end Sheet

end TableBook
