import TableBook.Proofs.CoveredCell
import TableBook.Proofs.Reached

/-!
The two policies for covered places side by side. They part at the first cell
that comes to a covered place, and there the one that rejects has its fault: the
refusal of the place, unless the marks or the image of the cell are at fault
first, and these are at fault wherever the cell goes.
-/

namespace TableBook

open TableFault

def Context.withPolicy (context : Context) (policy : MergePolicy) : Context :=
  { context with options := { context.options with policy } }

/-- Not stopped by a cell in what a region covers. -/
def Uncovered {α : Type} (x : Except TableFault α) : Prop :=
  ∀ fault, x = .error fault → ¬fault.IsCovered

theorem Uncovered.of_bind {α β : Type} {x : Except TableFault α} {f : α → Except TableFault β}
    (h : Uncovered (x >>= f)) : Uncovered x :=
  fun fault hfault => h fault (bind_eq_error_iff.mpr (.inl hfault))

theorem bind_eq_of_uncovered {α β : Type} {x : Except TableFault α}
    {f g : α → Except TableFault β} (h : Uncovered (x >>= g))
    (hfg : ∀ a, x = .ok a → Uncovered (g a) → f a = g a) : x >>= f = x >>= g := by
  cases x with
  | error fault => rfl
  | ok a => exact hfg a rfl h

namespace Sheet

variable {s t : Sheet} {a : Address} {context : Context} {cell : Element}
  {rowStyle : Option String}

theorem editCell_of_covered (hbounds : a.InBounds) {m : Merge}
    (hm : s.coveringMerge? a = some m) (f : Cell → Cell) :
    liftSheet (s.editCell a f) = .error (.mark (.coveredCell a m.range)) := by
  have hcheck : s.checkWritable a = .error (.coveredCell a m.range) :=
    checkWritable_eq_coveredCell_iff.mpr ⟨hbounds, rfl, m, hm, rfl⟩
  exact liftSheet_eq_error_iff.mpr ⟨_, editCell_eq_error_iff.mpr hcheck, rfl⟩

theorem writePayload_of_covered (context : Context) (cell : Element) (hbounds : a.InBounds)
    {m : Merge} (hm : s.coveringMerge? a = some m) :
    s.writePayload context cell a = .error (.mark (.coveredCell a m.range)) ∨
      ∃ fault, ∀ b, s.writePayload context cell b = .error fault := by
  simp only [writePayload]
  split
  · exact .inl (editCell_of_covered hbounds hm _)
  · split
    · next source _ =>
        cases ImageSource.resolve context.disk source context.options.imageFolder with
        | error fault => exact .inr ⟨.image fault, fun _ => rfl⟩
        | ok image => exact .inl (editCell_of_covered (s := s.addDrawing _) hbounds hm _)
    · split
      · exact .inl (editCell_of_covered hbounds hm _)
      · exact .inl (editCell_of_covered hbounds hm _)

/-- At a covered place the writing fails, and if not for the place then for
something that fails at every place. -/
theorem placeCell_of_covered (context : Context) (cell : Element) (rowStyle : Option String)
    (hbounds : a.InBounds) {m : Merge} (hm : s.coveringMerge? a = some m) :
    s.placeCell context cell a rowStyle = .error (.mark (.coveredCell a m.range)) ∨
      ∃ fault, ∀ b, s.placeCell context cell b rowStyle = .error fault := by
  simp only [placeCell_eq]
  cases cell.check context.options.strict with
  | error fault => exact .inr ⟨fault, fun _ => rfl⟩
  | ok _ =>
      rcases writePayload_of_covered context cell hbounds hm with hplace | ⟨fault, hfault⟩
      · refine .inl (bind_eq_error_iff.mpr (.inr ⟨(), rfl, ?_⟩))
        exact bind_eq_error_iff.mpr (.inl hplace)
      · refine .inr ⟨fault, fun b => bind_eq_error_iff.mpr (.inr ⟨(), rfl, ?_⟩)⟩
        exact bind_eq_error_iff.mpr (.inl (hfault b))

theorem placeCell_withPolicy (policy : MergePolicy) :
    s.placeCell (context.withPolicy policy) cell a rowStyle =
      s.placeCell context cell a rowStyle := by
  have hsources : (context.withPolicy policy).SameSources context := ⟨rfl, rfl, rfl, rfl⟩
  rw [placeCell_eq, placeCell_eq, writePayload_congr hsources, cellStyle_congr hsources]
  rfl

theorem placeCells_withPolicy_eq (hs : s.Within) {row column : Nat} (hrow : 1 ≤ row)
    (hcolumn : 1 ≤ column) {cells : List Element}
    (h : Uncovered (s.placeCells (context.withPolicy .reject) row column rowStyle cells)) :
    s.placeCells (context.withPolicy .skipCovered) row column rowStyle cells =
      s.placeCells (context.withPolicy .reject) row column rowStyle cells := by
  induction cells generalizing s column with
  | nil => rfl
  | cons cell cells ih =>
      have hreject : columnFor (context.withPolicy .reject).options.policy s row column =
          column := rfl
      rw [placeCells_cons, hreject, placeCell_withPolicy] at h
      rw [placeCells_cons, placeCells_cons, hreject, placeCell_withPolicy, placeCell_withPolicy]
      cases hm : s.coveringMerge? ⟨row, column⟩ with
      | none =>
          -- The search for a free column stays where it starts.
          have hskip : columnFor (context.withPolicy .skipCovered).options.policy s row column =
              column := firstUncovered_eq_self hm
          rw [hskip]
          refine bind_eq_of_uncovered h ?_
          intro t hcell ht
          split at ht
          · next hnext =>
              rw [if_pos hnext, if_pos hnext]
              have hpos : 1 ≤ column + cell.columnSpan := Nat.le_add_right_of_le hcolumn
              exact ih (hs.changes (fills_placeCell hcell).changes) hpos ht
          · next hnext => rw [if_neg hnext, if_neg hnext]
      | some m =>
          -- The cell must have a fault that does not depend on its place.
          have hbounds : Address.InBounds ⟨row, column⟩ := hs.inBounds_of_covered hrow hcolumn hm
          rcases placeCell_of_covered context cell rowStyle hbounds hm with
            hplace | ⟨fault, hfault⟩
          · rw [hplace] at h
            exact absurd trivial (h _ rfl)
          · rw [hfault, hfault]
            rfl

theorem placeRow_withPolicy_eq (hs : s.Within) {row : Nat} (hrow : 1 ≤ row) {e : Element}
    (h : Uncovered (s.placeRow (context.withPolicy .reject) row e)) :
    s.placeRow (context.withPolicy .skipCovered) row e =
      s.placeRow (context.withPolicy .reject) row e := by
  refine bind_eq_of_uncovered h fun _ _ h => bind_eq_of_uncovered h ?_
  intro t hheight ht
  have hchanges : s.Changes t := (fills_heightIf hheight).changes
  exact placeCells_withPolicy_eq (hs.changes hchanges) hrow (Nat.le_refl 1) ht

theorem placeRows_withPolicy_eq (hs : s.Within) {row : Nat} (hrow : 1 ≤ row)
    {rows : List Element}
    (h : Uncovered (s.placeRows (context.withPolicy .reject) row rows)) :
    s.placeRows (context.withPolicy .skipCovered) row rows =
      s.placeRows (context.withPolicy .reject) row rows := by
  induction rows generalizing s row with
  | nil => rfl
  | cons e rows ih =>
      rw [placeRows, placeRows]
      rw [placeRows] at h
      rw [placeRow_withPolicy_eq hs hrow h.of_bind]
      refine bind_eq_of_uncovered h ?_
      intro t ht hrest
      exact ih (hs.changes (fills_placeRow ht).changes) (Nat.le_add_right_of_le hrow) hrest

theorem withColumns_withPolicy (policy : MergePolicy) (column : Nat) (columns : List Element) :
    s.withColumns (context.withPolicy policy) column columns =
      s.withColumns context column columns := by
  induction columns generalizing s column with
  | nil => rfl
  | cons e rest ih =>
      rw [withColumns, withColumns]
      exact bind_congr fun t => ih (column + 1)

theorem ofTable_withPolicy_eq {table : Element} {taken : List String}
    (h : Uncovered (Sheet.ofTable (context.withPolicy .reject) table taken)) :
    Sheet.ofTable (context.withPolicy .skipCovered) table taken =
      Sheet.ofTable (context.withPolicy .reject) table taken := by
  rw [ofTable_eq, withColumns_withPolicy] at h
  rw [ofTable_eq, ofTable_eq, withColumns_withPolicy, withColumns_withPolicy]
  refine bind_eq_of_uncovered h fun _ _ h => bind_eq_of_uncovered h ?_
  intro t hcolumns h
  have ht : t.Within :=
    ((reached_start _ table taken).changes (fills_withColumns hcolumns).changes).within
  rw [placeRows_withPolicy_eq ht (Nat.le_refl 1) h.of_bind]

end Sheet

namespace Workbook

variable {context : Context}

theorem addTables_withPolicy_eq {w : Workbook} {index : Nat} {tables : List Element}
    (h : ∀ fault, addTables (context.withPolicy .reject) w index tables = .error fault →
      ¬fault.IsCovered) :
    addTables (context.withPolicy .skipCovered) w index tables =
      addTables (context.withPolicy .reject) w index tables := by
  induction tables generalizing w index with
  | nil => rfl
  | cons table rest ih =>
      simp only [addTables] at h ⊢
      have htable : Uncovered (Sheet.ofTable (context.withPolicy .reject) table w.names) := by
        intro cause hcause
        rw [hcause] at h
        exact h _ rfl
      rw [Sheet.ofTable_withPolicy_eq htable]
      cases hreject : Sheet.ofTable (context.withPolicy .reject) table w.names with
      | error cause => rfl
      | ok s =>
          rw [hreject] at h
          exact ih h

/-- The two policies give the same workbook or the same fault exactly where the
one that rejects is not stopped by a cell in what a region covers. -/
theorem ofNodes_withPolicy_eq_iff (context : Context) (nodes : List Node) :
    ofNodes (context.withPolicy .skipCovered) nodes =
        ofNodes (context.withPolicy .reject) nodes ↔
      ∀ fault, ofNodes (context.withPolicy .reject) nodes = .error fault → ¬fault.IsCovered := by
  constructor
  · intro hsame fault hfault
    rw [← hsame] at hfault
    rcases ofNodes_eq_error hfault with rfl | ⟨i, table, -, taken, cause, hcause, rfl⟩
    · exact id
    · exact Sheet.not_isCovered_of_ofTable rfl hcause
  · intro h
    simp only [ofNodes] at h ⊢
    cases htables : Node.findAll Element.isSheetTable nodes with
    | nil => rfl
    | cons table rest =>
        rw [htables] at h
        exact addTables_withPolicy_eq h

end Workbook

end TableBook
