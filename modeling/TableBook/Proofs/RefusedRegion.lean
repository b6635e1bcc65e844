import TableBook.Proofs.Reached
import TableBook.Proofs.Spans

namespace TableBook

namespace Sheet

variable {s : Sheet} {m : Merge} {a : Address} {fault : SheetFault}

theorem valueAt_ne_null_iff :
    s.valueAt a ≠ .null ↔ ∃ c, s.cell? a = some c ∧ c.value ≠ .null := by
  rw [valueAt]
  cases s.cell? a <;> simp

/-- A region would hide the value at a place. -/
def Hides (s : Sheet) (m : Merge) (a : Address) : Prop :=
  m.Occupies a ∧ a ≠ m.anchor ∧ s.valueAt a ≠ .null

/-- A region breaks the condition of a fault, and none before it. -/
inductive RefusedBy (s : Sheet) (m : Merge) : SheetFault → Prop
  | row (hbottom : maxRows < m.bottom) : RefusedBy s m (.rowOutOfBounds m.range.last.row)
  | column (hbottom : m.bottom ≤ maxRows) (hright : maxColumns < m.right) :
      RefusedBy s m (.columnOutOfBounds m.range.last.column)
  | region {other} (hbottom : m.bottom ≤ maxRows) (hright : m.right ≤ maxColumns)
      (hother : other ∈ s.merges) (hmeets : other.Meets m) :
      RefusedBy s m (.mergeConflict m.range other.range)
  | value {cell} (hbottom : m.bottom ≤ maxRows) (hright : m.right ≤ maxColumns)
      (hapart : ∀ other ∈ s.merges, ¬other.Meets m) (hhides : s.Hides m cell) :
      RefusedBy s m (.coveredCell cell m.range)

theorem Within.overlaps_iff_meets (h : s.Within) (hbottom : m.bottom ≤ maxRows)
    (hright : m.right ≤ maxColumns) {other : Merge} (hother : other ∈ s.merges) :
    other.range.overlaps m.range = true ↔ other.Meets m := by
  obtain ⟨hrow, hcolumn⟩ := h.regions other hother
  exact Merge.overlaps_iff_meets
    ⟨Merge.last_row_le_iff.mp hrow, Merge.last_column_le_iff.mp hcolumn⟩ ⟨hbottom, hright⟩

theorem Within.forall_not_meets_iff (h : s.Within) (hbottom : m.bottom ≤ maxRows)
    (hright : m.right ≤ maxColumns) :
    (∀ other ∈ s.merges, other.range.overlaps m.range = false) ↔
      ∀ other ∈ s.merges, ¬other.Meets m := by
  apply forall₂_congr
  intro other hother
  rw [← h.overlaps_iff_meets hbottom hright hother, Bool.not_eq_true]

theorem Within.mergeable_iff (h : s.Within) :
    s.Mergeable m ↔ m.bottom ≤ maxRows ∧ m.right ≤ maxColumns ∧
      (∀ other ∈ s.merges, ¬other.Meets m) ∧ ∀ a, ¬s.Hides m a := by
  constructor
  · intro hm
    have hbottom := Merge.last_row_le_iff.mp hm.row_le
    have hright := Merge.last_column_le_iff.mp hm.column_le
    refine ⟨hbottom, hright, (h.forall_not_meets_iff hbottom hright).mp hm.apart, ?_⟩
    rintro a ⟨hin, hne, hvalue⟩
    obtain ⟨c, hc, hfull⟩ := valueAt_ne_null_iff.mp hvalue
    have hcontains := (Merge.contains_iff_occupies hbottom hright).mpr hin
    exact hfull (hm.empty a c hc (Merge.covers_iff.mpr ⟨hne, hcontains⟩))
  · rintro ⟨hbottom, hright, hapart, hhidden⟩
    refine ⟨Merge.last_row_le_iff.mpr hbottom, Merge.last_column_le_iff.mpr hright,
      (h.forall_not_meets_iff hbottom hright).mpr hapart, ?_⟩
    intro a c hc hcovers
    obtain ⟨hne, hcontains⟩ := Merge.covers_iff.mp hcovers
    by_contra hfull
    exact hhidden a ⟨(Merge.contains_iff_occupies hbottom hright).mp hcontains, hne,
      valueAt_ne_null_iff.mpr ⟨c, hc, hfull⟩⟩

theorem Within.refusedBy_of_merge (h : s.Within) (hfault : s.merge m = .error fault) :
    s.RefusedBy m fault := by
  have houtcome := s.mergeOutcome m
  rw [hfault] at houtcome
  cases houtcome with
  | row hrow =>
      exact .row (Nat.not_le.mp (Merge.last_row_le_iff.not.mp (Nat.not_le.mpr hrow)))
  | column hrow hcolumn =>
      exact .column (Merge.last_row_le_iff.mp hrow)
        (Nat.not_le.mp (Merge.last_column_le_iff.not.mp (Nat.not_le.mpr hcolumn)))
  | region hrow hcolumn hother hoverlaps =>
      have hbottom := Merge.last_row_le_iff.mp hrow
      have hright := Merge.last_column_le_iff.mp hcolumn
      exact .region hbottom hright hother
        ((h.overlaps_iff_meets hbottom hright hother).mp hoverlaps)
  | value hrow hcolumn hapart hcell hcovers hvalue =>
      have hbottom := Merge.last_row_le_iff.mp hrow
      have hright := Merge.last_column_le_iff.mp hcolumn
      obtain ⟨hne, hin⟩ := Merge.covers_iff.mp hcovers
      exact .value hbottom hright ((h.forall_not_meets_iff hbottom hright).mp hapart)
        ⟨(Merge.contains_iff_occupies hbottom hright).mp hin, hne,
          valueAt_ne_null_iff.mpr ⟨_, hcell, hvalue⟩⟩

/-- After any run a region is registered exactly if its rectangle is inside the bounds
at its lower right, meets no region and hides no value; spans may be of any size. It
joins the others at their end, or the sheet stays as it was. -/
theorem merge_after (name : String) (operations : List Operation) (anchor : Address)
    (columns rows : Nat) :
    let s := (new name).after operations
    let m := Merge.ofSpans anchor columns rows
    let attempt := s.attempt (.merge m)
    (attempt.fault = none ↔
        anchor.row + max rows 1 - 1 ≤ maxRows ∧ anchor.column + max columns 1 - 1 ≤ maxColumns ∧
          (∀ other ∈ s.merges, ¬other.Meets m) ∧ ∀ a, ¬s.Hides m a) ∧
      (attempt.fault = none → attempt.sheet = { s with merges := s.merges ++ [m] }) ∧
      ∀ fault, attempt.fault = some fault → attempt.sheet = s ∧ s.RefusedBy m fault := by
  intro s m attempt
  have hwithin : s.Within := (reached_after name operations).within
  have hiff : s.Mergeable m ↔
      anchor.row + max rows 1 - 1 ≤ maxRows ∧ anchor.column + max columns 1 - 1 ≤ maxColumns ∧
        (∀ other ∈ s.merges, ¬other.Meets m) ∧ ∀ a, ¬s.Hides m a := hwithin.mergeable_iff
  rcases Attempt.ofExcept_cases merge_eq_ok_iff with
    ⟨hmergeable, hattempt⟩ | ⟨hrefused, fault, hmerge, hattempt⟩
  · rw [show attempt = _ from hattempt]
    refine ⟨iff_of_true rfl (hiff.mp hmergeable), fun _ => rfl, ?_⟩
    intro fault hfault
    cases hfault
  · have hfault : (⟨s, some fault⟩ : Attempt).fault ≠ none := Option.some_ne_none fault
    rw [show attempt = _ from hattempt]
    refine ⟨iff_of_false hfault (hiff.not.mp hrefused), fun h => absurd h hfault, ?_⟩
    intro fault' hfault'
    obtain rfl := Option.some.inj hfault'
    exact ⟨rfl, hwithin.refusedBy_of_merge hmerge⟩

/-- Beside a region of two rows and a value, five rectangles: one so high that its last
row leaves 32 bits, one past the last column, one on the region, one over the value,
and one that starts at the value. -/
theorem merge_after_refusals :
    let operations : List Operation := [.edit (.merge (.ofSpans ⟨1, 1⟩ 0 2)),
      .edit (.value ⟨4, 2⟩ (.boolean true))]
    let s := (new "Data").after operations
    let beside := Merge.ofSpans ⟨4, 2⟩ 2 0
    s.RefusedBy (.ofSpans ⟨2, 1⟩ 20000 4294967295) (.rowOutOfBounds 4294967295) ∧
      s.RefusedBy (.ofSpans ⟨2, 1⟩ 20000 2) (.columnOutOfBounds 20000) ∧
      s.RefusedBy (.ofSpans ⟨2, 1⟩ 2 3)
        (.mergeConflict (.ofCorners ⟨2, 1⟩ ⟨4, 2⟩) (.ofCorners ⟨1, 1⟩ ⟨2, 1⟩)) ∧
      s.RefusedBy (.ofSpans ⟨3, 1⟩ 2 2)
        (.coveredCell ⟨4, 2⟩ (.ofCorners ⟨3, 1⟩ ⟨4, 2⟩)) ∧
      (s.attempt (.merge beside)).sheet = { s with merges := s.merges ++ [beside] } := by
  intro operations s beside
  have hafter := merge_after "Data" operations
  refine ⟨?_, ?_, ?_, ?_, ?_⟩
  · exact ((hafter ⟨2, 1⟩ 20000 4294967295).2.2 _ (by decide +kernel)).2
  · exact ((hafter ⟨2, 1⟩ 20000 2).2.2 _ (by decide +kernel)).2
  · exact ((hafter ⟨2, 1⟩ 2 3).2.2 _ (by decide +kernel)).2
  · exact ((hafter ⟨3, 1⟩ 2 2).2.2 _ (by decide +kernel)).2
  · exact (hafter ⟨4, 2⟩ 2 0).2.1 (by decide +kernel)

end Sheet

end TableBook
