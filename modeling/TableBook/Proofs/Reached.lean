import TableBook.Proofs.Filling

namespace TableBook

namespace Sheet

variable {s t u : Sheet} {context : Context}

def Reached (s : Sheet) : Prop := ∃ name, (new name).Changes s

theorem Reached.changes (h : s.Reached) (hchanges : s.Changes t) : t.Reached := by
  obtain ⟨name, hname⟩ := h
  exact ⟨name, hname.trans hchanges⟩

theorem reached_after (name : String) (operations : List Operation) :
    ((new name).after operations).Reached :=
  ⟨name, changes_after (new name) operations⟩

structure Within (s : Sheet) : Prop where
  cells : ∀ a, (s.cell? a).isSome = true → a.InBounds
  regions : ∀ m ∈ s.merges, m.range.last.row ≤ maxRows ∧ m.range.last.column ≤ maxColumns

theorem within_new (name : String) : (new name).Within := by
  constructor
  · intro a ha
    cases ha
  · intro m hm
    cases hm

theorem Within.change (h : s.Within) (hchange : s.Change t) : t.Within := by
  cases hchange with
  | @cell a f hwritable =>
      refine ⟨?_, h.regions⟩
      intro b hb
      rw [cell?_changeCell] at hb
      split at hb
      · next hba => exact hba ▸ hwritable.1
      · exact h.cells b hb
  | @merge m hm =>
      refine ⟨h.cells, ?_⟩
      intro m' hm'
      rcases List.mem_append.mp hm' with hold | hnew
      · exact h.regions m' hold
      · rw [List.mem_singleton.mp hnew]
        exact ⟨hm.row_le, hm.column_le⟩
  | _ => exact ⟨h.cells, h.regions⟩

theorem Within.changes (h : s.Within) (hchanges : s.Changes t) : t.Within := by
  induction hchanges with
  | refl => exact h
  | tail _ hchange ih => exact ih.change hchange

theorem Reached.within (h : s.Reached) : s.Within := by
  obtain ⟨name, hname⟩ := h
  exact (within_new name).changes hname

theorem Within.le_of_covered (h : s.Within) {a : Address} {m : Merge}
    (hm : s.coveringMerge? a = some m) : a.row ≤ maxRows ∧ a.column ≤ maxColumns := by
  obtain ⟨hmem, hcovers⟩ := mem_and_covers_of_coveringMerge? hm
  obtain ⟨⟨-, hlastRow⟩, -, hlastColumn⟩ := Range.contains_iff.mp (Merge.covers_iff.mp hcovers).2
  obtain ⟨hmaxRow, hmaxColumn⟩ := h.regions m hmem
  exact ⟨hlastRow.trans hmaxRow, hlastColumn.trans hmaxColumn⟩

theorem Within.inBounds_of_covered (h : s.Within) {a : Address} (hrow : 1 ≤ a.row)
    (hcolumn : 1 ≤ a.column) {m : Merge} (hm : s.coveringMerge? a = some m) : a.InBounds := by
  obtain ⟨hmaxRow, hmaxColumn⟩ := h.le_of_covered hm
  exact ⟨hrow, hmaxRow, hcolumn, hmaxColumn⟩

theorem SameContents.change (h : s.SameContents t) : s.Change t := by
  obtain ⟨name, grid, pool, columns, rows, merges, drawings⟩ := t
  obtain ⟨rfl, rfl, rfl, rfl, rfl, rfl, rfl⟩ := h
  exact .settings ..

theorem reached_start (options : Options) (table : Element) (taken : List String) :
    (start options table taken).Reached :=
  ⟨_, .single (sameContents_withTableSettings _ table).change⟩

/-- The sheet of a table when its rows are placed is one that changes lead to;
all that follows is the sizing of columns. -/
theorem reached_of_ofTable {table : Element} {taken : List String}
    (h : Sheet.ofTable context table taken = .ok u) :
    ∃ t : Sheet, t.Reached ∧ u = t.withAutosize table := by
  obtain ⟨t, hfills, hu⟩ := fills_of_ofTable h
  exact ⟨t, (reached_start _ table taken).changes hfills.changes, hu⟩

end Sheet

end TableBook
