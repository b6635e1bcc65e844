import Mathlib.Logic.Function.Basic
import TableBook.Proofs.Grid

namespace TableBook.Grid

inductive Call
  | get (a : Address)
  | set (a : Address) (v : Value)
  | insert (a : Address) (c : Cell)
  /-- Change a cell, which is stored first if it is missing. -/
  | create (a : Address) (f : Cell → Cell)
  /-- Change a cell if it is stored. -/
  | modify (a : Address) (f : Cell → Cell)
  | remove (a : Address)

/-- Take a cell out. Where its row is missing there is nothing to do. -/
def remove (g : Grid) (a : Address) : Option Cell × Grid :=
  match g.rows.get? a.row with
  | none => (none, g)
  | some row => (row.get? a.column, g.erase a)

/-- The cell that a call hands out, and the cells it leaves. -/
def perform (g : Grid) : Call → Option Cell × Grid
  | .get a => (g.get? a, g)
  | .set a v => (none, g.setValue a v)
  | .insert a c => (none, g.insert a c)
  | .create a f => (some ((g.get? a).getD {}), g.edit a {} f)
  | .modify a f => (g.get? a, g.editStored a f)
  | .remove a => g.remove a

/-- The same call on a plain map. -/
def Call.onMap (m : Address → Option Cell) : Call → Option Cell × (Address → Option Cell)
  | .get a => (m a, m)
  | .set a v =>
      (none, Function.update m a (some { (m a).getD {} with value := v, explicit := false }))
  | .insert a c => (none, Function.update m a (some c))
  | .create a f => (some ((m a).getD {}), Function.update m a (some (f ((m a).getD {}))))
  | .modify a f => (m a, Function.update m a ((m a).map f))
  | .remove a => (m a, Function.update m a none)

/-- What calls hand out one after the other, and what the last one leaves. -/
def run {σ : Type} (step : σ → Call → Option Cell × σ) : σ → List Call → List (Option Cell) × σ
  | s, [] => ([], s)
  | s, call :: calls =>
      let (answer, s) := step s call
      let (answers, s) := run step s calls
      (answer :: answers, s)

theorem get?_alter_eq_update (g : Grid) (a : Address) (f : Option Cell → Option Cell) :
    (g.alter a f).get? = Function.update g.get? a (f (g.get? a)) := by
  funext b
  rw [get?_alter, Function.update_apply]

theorem erase_eq_self {g : Grid} {a : Address} (h : g.rows.get? a.row = none) :
    g.erase a = g := by
  ext : 1
  refine Keyed.ext_get? fun row => ?_
  rw [erase, alter, Keyed.get?_alter]
  split
  · next hrow =>
      rw [hrow, h]
      rfl
  · rfl

theorem remove_eq (g : Grid) (a : Address) : g.remove a = (g.get? a, g.erase a) := by
  rw [remove, get?]
  cases h : g.rows.get? a.row with
  | none => rw [erase_eq_self h, Option.bind_none]
  | some row => rfl

theorem perform_eq_onMap (g : Grid) (call : Call) :
    (g.perform call).1 = (call.onMap g.get?).1 ∧
      (g.perform call).2.get? = (call.onMap g.get?).2 := by
  cases call with
  | get a => exact ⟨rfl, rfl⟩
  | set a v => exact ⟨rfl, get?_alter_eq_update g a _⟩
  | insert a c => exact ⟨rfl, get?_alter_eq_update g a _⟩
  | create a f => exact ⟨rfl, get?_alter_eq_update g a _⟩
  | modify a f => exact ⟨rfl, get?_alter_eq_update g a _⟩
  | remove a =>
      rw [perform, remove_eq]
      exact ⟨rfl, get?_alter_eq_update g a _⟩

theorem run_perform_eq_onMap (g : Grid) (calls : List Call) :
    (run perform g calls).1 = (run Call.onMap g.get? calls).1 ∧
      (run perform g calls).2.get? = (run Call.onMap g.get? calls).2 := by
  induction calls generalizing g with
  | nil => exact ⟨rfl, rfl⟩
  | cons call calls ih =>
      obtain ⟨hanswer, hget⟩ := g.perform_eq_onMap call
      obtain ⟨hanswers, hleft⟩ := ih (g.perform call).2
      rw [hget] at hanswers hleft
      exact ⟨congrArg₂ List.cons hanswer hanswers, hleft⟩

/-- A run on the stored cells is a run on a map, with no row kept for nothing. What is
counted, listed or bounded afterwards is what the map holds. -/
theorem views_after (calls : List Call) :
    let left := run perform ∅ calls
    let g := left.2
    let m := (run Call.onMap (fun _ => none) calls).2
    left.1 = (run Call.onMap (fun _ => none) calls).1 ∧ g.get? = m ∧
      (∀ e ∈ g.rows.entries, e.2.entries ≠ []) ∧ (g.isEmpty = true ↔ g.count = 0) ∧
      ((∀ a c, (a, c) ∈ g.cells ↔ m a = some c) ∧
        g.cells.Pairwise fun x y => x.1.Before y.1) ∧
      (∀ row, g.rowCells row =
        (g.cells.filter fun e => e.1.row = row).map fun e => (e.1.column, e.2)) ∧
      g.count = g.cells.length ∧
      ((g.bounds = none ↔ ∀ a, m a = none) ∧
        ∀ r, g.bounds = some r →
          (IsLeast {row | ∃ a, (m a).isSome = true ∧ a.row = row} r.first.row ∧
            IsLeast {column | ∃ a, (m a).isSome = true ∧ a.column = column} r.first.column) ∧
          IsGreatest {row | ∃ a, (m a).isSome = true ∧ a.row = row} r.last.row ∧
            IsGreatest {column | ∃ a, (m a).isSome = true ∧ a.column = column} r.last.column) ∧
      (g.usedColumns.Pairwise (· < ·) ∧
        ∀ column, column ∈ g.usedColumns ↔ ∃ a, (m a).isSome = true ∧ a.column = column) ∧
      ∀ r, g.cellsIn r = g.cells.filter fun e => r.contains e.1 := by
  intro left g m
  obtain ⟨hanswers, hget⟩ := run_perform_eq_onMap ∅ calls
  have hm : g.get? = m := hget
  rw [← hm]
  refine ⟨hanswers, rfl, g.occupied, ?_, ⟨fun _ _ => mem_cells_iff, g.cells_pairwise⟩,
    g.rowCells_eq_filter, g.count_eq_length,
    ⟨bounds_eq_none_iff, fun r h => ⟨isLeast_bounds h, isGreatest_bounds h⟩⟩,
    ⟨g.usedColumns_pairwise, fun _ => mem_usedColumns_iff⟩, g.cellsIn_eq_filter⟩
  rw [isEmpty_iff, count_eq_length, List.length_eq_zero_iff]

end TableBook.Grid
