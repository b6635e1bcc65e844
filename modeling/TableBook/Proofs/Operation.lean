import Mathlib.Logic.Relation
import TableBook.Proofs.Sheet
import TableBook.Sheet.Edit

namespace TableBook

/-- An edit of a sheet, or one by hand of a cell, a column or the page. -/
inductive Operation
  | edit (edit : Edit)
  | cell (a : Address) (f : Cell → Cell)
  | column (column : Nat) (f : Column → Column)
  | page (f : Page → Page)

namespace Sheet

def perform (s : Sheet) : Operation → Attempt
  | .edit edit => s.attempt edit
  | .cell a f => .ofExcept s (s.editCell a f)
  | .column column f => .ofExcept s (s.editColumn column f)
  | .page f => ⟨{ s with page := f s.page }, none⟩

def after (s : Sheet) (operations : List Operation) : Sheet :=
  operations.foldl (fun s operation => (s.perform operation).sheet) s

/-- One change of what a sheet holds. -/
inductive Change : Sheet → Sheet → Prop
  | cell {s a} (f : Cell → Cell) (h : s.Writable a) :
      Change s (s.changeCell a f)
  | pool {s} (base : Nat) (style : Style) :
      Change s (s.withPool (s.pool.mergeInto base style).2)
  | column {s column} (f : Column → Column) (h : 1 ≤ column ∧ column ≤ maxColumns) :
      Change s (s.changeColumn column f)
  | row {s row} (f : Row → Row) (h : 1 ≤ row ∧ row ≤ maxRows) :
      Change s { s with rows := s.rows.alter row fun r? => some (f (r?.getD {})) }
  | merge {s m} (h : s.Mergeable m) : Change s { s with merges := s.merges ++ [m] }
  | settings {s} (name : String) (drawings : List Drawing) (freeze : Option Address)
      (autoFilter : Option Range) (defaultWidth : Option Binary64) (zoom : Option Nat)
      (tabColor : Option Color) (gridlines : Bool) (page : Page) :
      Change s { s with
        name, drawings, freeze, autoFilter, defaultWidth, zoom, tabColor, gridlines, page }

abbrev Changes : Sheet → Sheet → Prop := Relation.ReflTransGen Change

variable {s t : Sheet}

theorem changes_ofExcept {result : Except SheetFault Sheet}
    (h : ∀ t, result = .ok t → s.Changes t) : s.Changes (Attempt.ofExcept s result).sheet := by
  cases result with
  | ok t => exact h t rfl
  | error fault => exact .refl

theorem changes_andThen {attempt : Attempt} {next : Sheet → Attempt} (h : s.Changes attempt.sheet)
    (hnext : ∀ t : Sheet, t.Changes (next t).sheet) : s.Changes (attempt.andThen next).sheet := by
  obtain ⟨t, _ | fault⟩ := attempt
  · exact h.trans (hnext t)
  · exact h

theorem changes_editCell {a : Address} {f : Cell → Cell} (h : s.editCell a f = .ok t) :
    s.Changes t := by
  obtain ⟨hwritable, rfl⟩ := editCell_eq_ok_iff.mp h
  exact .single (.cell f hwritable)

theorem changes_editColumn {column : Nat} {f : Column → Column}
    (h : s.editColumn column f = .ok t) : s.Changes t := by
  obtain ⟨hcolumn, rfl⟩ := editColumn_eq_ok_iff.mp h
  exact .single (.column f hcolumn)

theorem changes_styleCell {a : Address} {style : Style} (h : s.styleCell a style = .ok t) :
    s.Changes t := by
  obtain ⟨hwritable, rfl⟩ := styleCell_eq_ok_iff.mp h
  exact .tail (.single (.pool (s.stylePlace a) style))
    (.cell (s := s.withPool (s.cellMerge a style).2) _ hwritable)

theorem changes_styleCells (s : Sheet) (style : Style) (positions : List Address) :
    s.Changes (s.styleCells style positions).sheet := by
  induction positions generalizing s with
  | nil => exact .refl
  | cons a rest ih =>
      exact changes_andThen (changes_ofExcept fun t => changes_styleCell) fun t => ih t

theorem changes_styleColumn (s : Sheet) (column : Nat) (style : Style) :
    s.Changes (s.styleColumn column style).sheet := by
  have hpool : s.Changes (s.withPool (s.columnMerge column style).2) := .single (.pool _ _)
  exact hpool.trans (changes_ofExcept fun t => changes_editColumn)

theorem changes_merge {m : Merge} (h : s.merge m = .ok t) : s.Changes t := by
  obtain ⟨hm, rfl⟩ := merge_eq_ok_iff.mp h
  exact .single (.merge hm)

theorem changes_setRowHeight {row : Nat} {height : Binary64}
    (h : s.setRowHeight row height = .ok t) : s.Changes t := by
  obtain ⟨hrow, rfl⟩ := setRowHeight_eq_ok_iff.mp h
  exact .single (.row (fun r => { r with height := some height }) hrow)

theorem changes_attempt (s : Sheet) (edit : Edit) : s.Changes (s.attempt edit).sheet := by
  cases edit with
  | value => exact changes_ofExcept fun t => changes_editCell
  | explicitText => exact changes_ofExcept fun t => changes_editCell
  | formula => exact changes_ofExcept fun t => changes_editCell
  | link => exact changes_ofExcept fun t => changes_editCell
  | comment => exact changes_ofExcept fun t => changes_editCell
  | choices => exact changes_ofExcept fun t => changes_editCell
  | style => exact changes_ofExcept fun t => changes_styleCell
  | styleRange => exact changes_styleCells ..
  | styleColumn => exact changes_styleColumn ..
  | styleWholeColumn =>
      exact changes_andThen (changes_styleCells ..) fun t => changes_styleColumn ..
  | columnWidth => exact changes_ofExcept fun t => changes_editColumn
  | columnHidden => exact changes_ofExcept fun t => changes_editColumn
  | columnAutoSize => exact changes_ofExcept fun t => changes_editColumn
  | rowHeight => exact changes_ofExcept fun t => changes_setRowHeight
  | merge => exact changes_ofExcept fun t => changes_merge
  | _ => exact .single (.settings ..)

theorem changes_perform (s : Sheet) (operation : Operation) :
    s.Changes (s.perform operation).sheet := by
  cases operation with
  | edit edit => exact changes_attempt s edit
  | cell => exact changes_ofExcept fun t => changes_editCell
  | column => exact changes_ofExcept fun t => changes_editColumn
  | page => exact .single (.settings ..)

theorem changes_after (s : Sheet) (operations : List Operation) :
    s.Changes (s.after operations) := by
  induction operations generalizing s with
  | nil => exact .refl
  | cons operation rest ih => exact (changes_perform s operation).trans (ih _)

/-- What holds at first and is kept by every change holds after every run. -/
theorem invariant_after {P : Sheet → Prop} (hstep : ∀ s t, Change s t → P s → P t)
    (hs : P s) (operations : List Operation) : P (s.after operations) := by
  have hrun := changes_after s operations
  generalize s.after operations = t at hrun
  induction hrun with
  | refl => exact hs
  | tail _ h ih => exact hstep _ _ h ih

end Sheet

end TableBook
