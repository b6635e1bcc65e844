import TableBook.Proofs.CellWrite
import TableBook.Proofs.DirectRefinement
import TableBook.Table.NamedStyle

namespace TableBook

namespace DirectSheet

variable {d : DirectSheet} {style : Style} {positions : List Address}

/-- A style merged into all of some positions at once. -/
def dressCells (d : DirectSheet) (positions : List Address) (style : Style) : DirectSheet :=
  { d with cells := fun b =>
      if b ∈ positions then
        let c := (d.cells b).getD { style := d.columnStyle b.column }
        some { c with style := c.style.merge style }
      else d.cells b }

theorem styleAt_dressCells (d : DirectSheet) (positions : List Address) (style : Style)
    (b : Address) :
    (d.dressCells positions style).styleAt b =
      if b ∈ positions then (d.styleAt b).merge style else d.styleAt b := by
  by_cases hb : b ∈ positions
  · have hcell : (d.dressCells positions style).cells b = some _ := if_pos hb
    rw [if_pos hb, styleAt, hcell, styleAt]
    cases d.cells b <;> rfl
  · have hcell : (d.dressCells positions style).cells b = d.cells b := if_neg hb
    rw [if_neg hb, styleAt, hcell]
    rfl

/-- One position and then others are all of them at once. -/
theorem dressCells_cons {a : Address} (ha : a ∉ positions) :
    (d.setCell a fun c => { c with style := c.style.merge style }).dressCells positions style =
      d.dressCells (a :: positions) style := by
  refine congrArg (fun cells => { d with cells }) ?_
  funext b
  by_cases hb : b = a
  · subst hb
    simp [setCell, ha]
  · by_cases hrest : b ∈ positions
    · simp [setCell, columnStyle, hb, hrest]
    · simp [setCell, hb, hrest]

theorem sheet_styleCells (hnodup : positions.Nodup)
    (h : (d.styleCells style positions).fault = none) :
    (d.styleCells style positions).sheet = d.dressCells positions style := by
  induction positions generalizing d with
  | nil => rfl
  | cons a rest ih =>
      obtain ⟨ha, hrest⟩ := List.nodup_cons.mp hnodup
      rw [styleCells, styleCell, editCell] at h ⊢
      cases hcheck : d.checkWritable a with
      | error fault =>
          rw [hcheck] at h
          cases h
      | ok =>
          rw [hcheck] at h
          rw [← dressCells_cons ha]
          exact ih hrest h

end DirectSheet

namespace Sheet

variable {s t u : Sheet} {a : Address} {style : Style} {positions done rest : List Address}

/-- `t` is `s` with new styles at some positions. New cells are stored where
there were none. -/
structure CellsRestyled (s : Sheet) (positions : List Address) (t : Sheet) : Prop where
  frame : t = { s with grid := t.grid, pool := t.pool }
  pool : s.pool.GrowsTo t.pool
  inside : ∀ b ∈ positions, ∃ place, t.cell? b = some { s.cellOrFresh b with style := place }
  outside : ∀ b, b ∉ positions → t.cell? b = s.cell? b

namespace CellsRestyled

theorem columns_eq (h : s.CellsRestyled positions t) : t.columns = s.columns := by
  rw [h.frame]

theorem merges_eq (h : s.CellsRestyled positions t) : t.merges = s.merges := by
  rw [h.frame]

theorem writable_iff (h : s.CellsRestyled positions t) : t.Writable a ↔ s.Writable a := by
  rw [Writable, Writable, coveringMerge?, coveringMerge?, h.merges_eq]

theorem checkWritable_eq (h : s.CellsRestyled positions t) (a : Address) :
    t.checkWritable a = s.checkWritable a := by
  simp only [checkWritable, coveringMerge?, h.merges_eq]

theorem nil (s : Sheet) : s.CellsRestyled [] s where
  frame := rfl
  pool := .refl s.pool
  inside _ hb := absurd hb List.not_mem_nil
  outside _ _ := rfl

theorem single (s : Sheet) (a : Address) (style : Style) :
    s.CellsRestyled [a] (s.restyleCell a style) where
  frame := rfl
  pool := s.pool.mergeInto_growsTo (s.stylePlace a) style
  inside b hb := by
    obtain rfl := List.mem_singleton.mp hb
    refine ⟨(s.cellMerge b style).1, ?_⟩
    rw [restyleCell, cell?_changeCell, if_pos rfl]
    rfl
  outside b hb := by
    rw [restyleCell, cell?_changeCell, if_neg (by simpa using hb)]
    rfl

/-- What an edit at a position starts from differs in the style at most. -/
theorem cellOrFresh_eq (h : s.CellsRestyled positions t) (b : Address) :
    ∃ place, t.cellOrFresh b = { s.cellOrFresh b with style := place } := by
  by_cases hb : b ∈ positions
  · obtain ⟨place, hplace⟩ := h.inside b hb
    refine ⟨place, ?_⟩
    rw [cellOrFresh, hplace]
    rfl
  · refine ⟨(s.cellOrFresh b).style, ?_⟩
    rw [cellOrFresh, h.outside b hb, columnStyle, h.columns_eq]
    rfl

theorem append (h : s.CellsRestyled positions t) (h' : t.CellsRestyled rest u) :
    s.CellsRestyled (positions ++ rest) u where
  frame := by rw [h'.frame, h.frame]
  pool := h.pool.trans h'.pool
  inside b hb := by
    by_cases hrest : b ∈ rest
    · obtain ⟨earlier, hearlier⟩ := h.cellOrFresh_eq b
      obtain ⟨place, hplace⟩ := h'.inside b hrest
      refine ⟨place, ?_⟩
      rw [hplace, hearlier]
    · rw [h'.outside b hrest]
      exact h.inside b ((List.mem_append.mp hb).resolve_right hrest)
  outside b hb := by
    rw [List.mem_append, not_or] at hb
    rw [h'.outside b hb.2, h.outside b hb.1]

end CellsRestyled

theorem toExcept_eq_ok_iff {attempt : Attempt} :
    attempt.toExcept = .ok t ↔ attempt = ⟨t, none⟩ := by
  obtain ⟨u, _ | fault⟩ := attempt <;> simp [Attempt.toExcept]

/-- How a run can end: all positions are styled, or one refuses, and then the
sheet is what the positions before it give by themselves. -/
theorem styleCells_cases (s : Sheet) (style : Style) (positions : List Address) :
    (∃ t, s.styleCells style positions = ⟨t, none⟩ ∧ (∀ a ∈ positions, s.Writable a) ∧
        s.CellsRestyled positions t) ∨
      ∃ done a rest fault t, positions = done ++ a :: rest ∧ s.checkWritable a = .error fault ∧
        s.styleCells style positions = ⟨t, some fault⟩ ∧ s.styleCells style done = ⟨t, none⟩ ∧
        s.CellsRestyled done t := by
  induction positions generalizing s with
  | nil => exact .inl ⟨s, rfl, by simp, .nil s⟩
  | cons a rest ih =>
      cases hcheck : s.checkWritable a with
      | error fault =>
          refine .inr ⟨[], a, rest, fault, s, rfl, hcheck, ?_, rfl, .nil s⟩
          rw [styleCells, styleCell_eq, hcheck]
          rfl
      | ok =>
          have hstep (l : List Address) :
              s.styleCells style (a :: l) = (s.restyleCell a style).styleCells style l := by
            rw [styleCells, styleCell_eq, hcheck]
            rfl
          have hfirst := CellsRestyled.single s a style
          rcases ih (s.restyleCell a style) with ⟨t, hrun, hwritable, hrestyled⟩ |
            ⟨done, b, later, fault, t, rfl, hrefused, hrun, hdone, hrestyled⟩
          · refine .inl ⟨t, (hstep rest).trans hrun, ?_, hfirst.append hrestyled⟩
            rw [List.forall_mem_cons]
            refine ⟨checkWritable_eq_ok_iff.mp hcheck, ?_⟩
            intro b hb
            exact hfirst.writable_iff.mp (hwritable b hb)
          · rw [hfirst.checkWritable_eq] at hrefused
            exact .inr ⟨a :: done, b, later, fault, t, rfl, hrefused, (hstep _).trans hrun,
              (hstep done).trans hdone, hfirst.append hrestyled⟩

theorem styleCells_eq_ok (h : s.styleCells style positions = ⟨t, none⟩) :
    (∀ a ∈ positions, s.Writable a) ∧ s.CellsRestyled positions t := by
  rcases s.styleCells_cases style positions with ⟨u, hrun, hwritable, hrestyled⟩ |
    ⟨done, a, rest, fault, u, -, -, hrun, -⟩
  · rw [hrun] at h
    cases h
    exact ⟨hwritable, hrestyled⟩
  · rw [hrun] at h
    cases h

theorem exists_styleCells (h : ∀ a ∈ positions, s.Writable a) (style : Style) :
    ∃ t, s.styleCells style positions = ⟨t, none⟩ := by
  rcases s.styleCells_cases style positions with ⟨t, hrun, -⟩ |
    ⟨done, a, rest, fault, t, hsplit, hrefused, -⟩
  · exact ⟨t, hrun⟩
  · have hmem : a ∈ positions := by
      rw [hsplit]
      exact List.mem_append_right _ List.mem_cons_self
    rw [checkWritable_eq_ok_iff.mpr (h a hmem)] at hrefused
    cases hrefused

theorem mem_storedIn_iff {column : Nat} :
    a ∈ s.storedIn column ↔ (s.cell? a).isSome = true ∧ a.column = column := by
  rw [storedIn, List.mem_filter, Grid.mem_map_cells_iff, beq_iff_eq]
  rfl

theorem nodup_storedIn (s : Sheet) (column : Nat) : (s.storedIn column).Nodup := by
  have hbefore : (s.storedIn column).Pairwise Address.Before := s.grid.map_cells_pairwise.filter _
  exact hbefore.imp Address.Before.ne

theorem styleColumn_of_inBounds {column : Nat} (h : 1 ≤ column ∧ column ≤ maxColumns)
    (style : Style) :
    s.styleColumn column style =
      ⟨(s.withPool (s.columnMerge column style).2).changeColumn column fun c =>
        { c with style := some (s.columnMerge column style).1 }, none⟩ := by
  rw [styleColumn_eq, editColumn_eq, checkColumn_eq_ok_iff.mpr h]
  rfl

theorem styleColumn_of_not_inBounds {column : Nat} (h : ¬(1 ≤ column ∧ column ≤ maxColumns))
    (style : Style) :
    s.styleColumn column style =
      ⟨s.withPool (s.columnMerge column style).2, some (.columnOutOfBounds column)⟩ := by
  rw [styleColumn_eq, editColumn_eq, checkColumn, if_neg h]
  rfl

/-- A run that succeeds lays the style on what each of the positions showed. -/
theorem direct_styleCells (h : s.PlacesKnown) (hnodup : positions.Nodup)
    (hok : s.styleCells style positions = ⟨t, none⟩) :
    t.PlacesKnown ∧ t.direct = s.direct.dressCells positions style := by
  obtain ⟨hplaces, hsheet, hfault⟩ := styleCells_refines h style positions
  rw [hok] at hplaces hsheet hfault
  exact ⟨hplaces, hsheet.trans (DirectSheet.sheet_styleCells hnodup hfault.symm)⟩

section Named

variable {catalogue : Catalogue} {styleName : String} {edit : Style → Attempt}

theorem styleNamed_of_ok (h : catalogue.named styleName = .ok style) (edit : Style → Attempt) :
    s.styleNamed catalogue styleName edit =
      ⟨(edit style).sheet, (edit style).fault.map .ofSheet⟩ := by
  rw [styleNamed, h]

/-- This is how the elements of columns are styled by name. -/
theorem toExcept_styleNamed (s : Sheet) (catalogue : Catalogue) (styleName : String)
    (edit : Style → Attempt) :
    (s.styleNamed catalogue styleName edit).toExcept =
      TableFault.liftStyle (catalogue.named styleName) >>= fun style =>
        TableFault.liftSheet (edit style).toExcept := by
  rw [styleNamed]
  cases catalogue.named styleName with
  | error unknown => rfl
  | ok style =>
      change _ = TableFault.liftSheet (edit style).toExcept
      cases hedit : edit style with
      | mk t fault =>
          cases fault with
          | none =>
              simp only [hedit]
              rfl
          | some fault =>
              simp only [hedit]
              rfl

theorem toExcept_styleNamed_eq_ok_iff :
    (s.styleNamed catalogue styleName edit).toExcept = .ok t ↔
      ∃ style, catalogue.named styleName = .ok style ∧ edit style = ⟨t, none⟩ := by
  rw [toExcept_styleNamed, bind_eq_ok_iff]
  simp only [TableFault.liftStyle, mapError_eq_ok_iff, liftSheet_eq_ok_iff, toExcept_eq_ok_iff]

/-- By name an edit fails because nothing is known by the name, or as the edit
with the style fails. -/
theorem fault_styleNamed {fault : TableFault}
    (h : (s.styleNamed catalogue styleName edit).fault = some fault) :
    (∃ unknown, catalogue.named styleName = .error unknown ∧ fault = .unknownStyle unknown ∧
        (s.styleNamed catalogue styleName edit).sheet = s) ∨
      ∃ style cause, catalogue.named styleName = .ok style ∧ fault = .ofSheet cause ∧
        edit style = ⟨(s.styleNamed catalogue styleName edit).sheet, some cause⟩ := by
  cases hstyle : catalogue.named styleName with
  | error unknown =>
      rw [styleNamed, hstyle] at h ⊢
      exact .inl ⟨unknown, rfl, (Option.some.inj h).symm, rfl⟩
  | ok style =>
      rw [styleNamed_of_ok hstyle] at h ⊢
      obtain ⟨cause, hcause, rfl⟩ := Option.map_eq_some_iff.mp h
      refine .inr ⟨style, cause, rfl, rfl, ?_⟩
      rw [← hcause]

end Named

end Sheet

end TableBook
