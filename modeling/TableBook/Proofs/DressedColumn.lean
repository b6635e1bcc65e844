import TableBook.Proofs.ManyCells
import TableBook.Proofs.Reached

namespace TableBook

/-- A cell but for its style. -/
def Cell.unstyled (c : Cell) : Cell := { c with style := 0 }

namespace DirectSheet

variable {d : DirectSheet} {column : Nat} {style : Style}

/-- A style merged into all stored cells of a column and into the column. -/
def dressColumn (d : DirectSheet) (column : Nat) (style : Style) : DirectSheet :=
  { d with
    cells := fun b =>
      if b.column = column then
        (d.cells b).map fun c => { c with style := c.style.merge style }
      else d.cells b
    columns := fun k =>
      if k = column then
        let c := (d.columns column).getD {}
        some { c with style := some ((d.columnStyle column).merge style) }
      else d.columns k }

theorem cells_dressColumn (d : DirectSheet) (column : Nat) (style : Style) (b : Address) :
    (d.dressColumn column style).cells b =
      if b.column = column then
        (d.cells b).map fun c => { c with style := c.style.merge style }
      else d.cells b := rfl

theorem columnStyle_dressColumn (d : DirectSheet) (column : Nat) (style : Style) (k : Nat) :
    (d.dressColumn column style).columnStyle k =
      if k = column then (d.columnStyle k).merge style else d.columnStyle k := by
  by_cases hk : k = column
  · subst hk
    have hcolumn : (d.dressColumn k style).columns k = some _ := if_pos rfl
    rw [if_pos rfl, columnStyle, hcolumn]
    rfl
  · have hcolumn : (d.dressColumn column style).columns k = d.columns k := if_neg hk
    rw [if_neg hk, columnStyle, hcolumn]
    rfl

theorem styleAt_dressColumn (d : DirectSheet) (column : Nat) (style : Style) (b : Address) :
    (d.dressColumn column style).styleAt b =
      if b.column = column then (d.styleAt b).merge style else d.styleAt b := by
  rw [styleAt, styleAt, columnStyle_dressColumn, cells_dressColumn]
  by_cases hb : b.column = column
  · rw [if_pos hb, if_pos hb, if_pos hb]
    cases d.cells b <;> rfl
  · rw [if_neg hb, if_neg hb, if_neg hb]

/-- The stored cells of a column one by one and then the column give the same. -/
theorem setColumn_dressCells {positions : List Address}
    (hpositions : ∀ b, b ∈ positions ↔ (d.cells b).isSome = true ∧ b.column = column) :
    ((d.dressCells positions style).setColumn column fun c =>
        { c with style := some ((d.columnStyle column).merge style) }) =
      d.dressColumn column style := by
  refine congrArg (fun cells => { d.dressColumn column style with cells }) ?_
  funext b
  change (d.dressCells positions style).cells b = (d.dressColumn column style).cells b
  cases hcell : d.cells b with
  | none => simp [dressCells, dressColumn, hpositions, hcell]
  | some c => simp [dressCells, dressColumn, hpositions, hcell]

theorem cells_setCell (d : DirectSheet) (a b : Address) (f : DirectCell → DirectCell) :
    (d.setCell a f).cells b =
      if b = a then some (f ((d.cells a).getD { style := d.columnStyle a.column }))
      else d.cells b := rfl

/-- An edit that does not look at the style may come before or after. -/
theorem dressColumn_setCell (d : DirectSheet) (column : Nat) (style : Style) (a : Address)
    (f : Cell → Cell) :
    (d.setCell a (.edit f)).dressColumn column style =
      (d.dressColumn column style).setCell a (.edit f) := by
  refine congrArg (fun cells => { d.dressColumn column style with cells }) ?_
  funext b
  change ((d.setCell a (.edit f)).dressColumn column style).cells b =
    ((d.dressColumn column style).setCell a (.edit f)).cells b
  rw [cells_dressColumn, cells_setCell, cells_setCell, cells_dressColumn, cells_dressColumn,
    columnStyle_dressColumn]
  by_cases hb : b = a
  · subst hb
    rw [if_pos rfl, if_pos rfl]
    by_cases hcolumn : b.column = column
    · rw [if_pos hcolumn, if_pos hcolumn, if_pos hcolumn]
      cases d.cells b <;> rfl
    · rw [if_neg hcolumn, if_neg hcolumn, if_neg hcolumn]
  · rw [if_neg hb, if_neg hb]

end DirectSheet

namespace Sheet

variable {s t : Sheet} {a : Address} {column : Nat} {style : Style}

/-- `t` is `s` with new styles in a column. No cell is stored that was not, and
all that is kept of the cells is kept. -/
structure ColumnRestyled (s : Sheet) (column : Nat) (t : Sheet) : Prop where
  frame : t = { s with grid := t.grid, pool := t.pool, columns := t.columns }
  pool : s.pool.GrowsTo t.pool
  cells : ∀ a, (t.cell? a).map Cell.unstyled = (s.cell? a).map Cell.unstyled
  otherCells : ∀ a, a.column ≠ column → t.cell? a = s.cell? a
  settings : ∃ place, t.columns.get? column = some { s.columnOrFresh column with style := place }
  otherColumns : ∀ k, k ≠ column → t.columns.get? k = s.columns.get? k

theorem ColumnRestyled.writable_iff (h : s.ColumnRestyled column t) :
    t.Writable a ↔ s.Writable a := by
  have hmerges : t.merges = s.merges := by rw [h.frame]
  rw [Writable, Writable, coveringMerge?, coveringMerge?, hmerges]

/-- The two stages of a styling of a whole column that succeeds. -/
theorem styleWholeColumn_eq_ok (h : s.styleWholeColumn column style = ⟨t, none⟩) :
    ∃ u, s.styleCells style (s.storedIn column) = ⟨u, none⟩ ∧
      u.styleColumn column style = ⟨t, none⟩ := by
  rw [styleWholeColumn] at h
  cases hcells : s.styleCells style (s.storedIn column) with
  | mk u fault =>
      rw [hcells] at h
      cases fault with
      | none => exact ⟨u, rfl, h⟩
      | some fault => cases h

theorem styleColumn_eq_ok (h : s.styleColumn column style = ⟨t, none⟩) :
    (1 ≤ column ∧ column ≤ maxColumns) ∧
      t = (s.withPool (s.columnMerge column style).2).changeColumn column fun c =>
        { c with style := some (s.columnMerge column style).1 } := by
  by_cases hcolumn : 1 ≤ column ∧ column ≤ maxColumns
  · rw [styleColumn_of_inBounds hcolumn] at h
    exact ⟨hcolumn, (congrArg Attempt.sheet h).symm⟩
  · rw [styleColumn_of_not_inBounds hcolumn] at h
    cases h

/-- A whole column is styled if it is one and none of its stored cells is refused. -/
theorem exists_styleWholeColumn_iff :
    (∃ t, s.styleWholeColumn column style = ⟨t, none⟩) ↔
      (1 ≤ column ∧ column ≤ maxColumns) ∧ ∀ a ∈ s.storedIn column, s.Writable a := by
  constructor
  · rintro ⟨t, ht⟩
    obtain ⟨u, hcells, hcolumn⟩ := styleWholeColumn_eq_ok ht
    refine ⟨(styleColumn_eq_ok hcolumn).1, ?_⟩
    exact (styleCells_eq_ok hcells).1
  · rintro ⟨hcolumn, hwritable⟩
    obtain ⟨u, hcells⟩ := exists_styleCells hwritable style
    rw [styleWholeColumn, hcells]
    exact ⟨_, styleColumn_of_inBounds hcolumn style⟩

theorem columnRestyled_of_ok (h : s.styleWholeColumn column style = ⟨t, none⟩) :
    s.ColumnRestyled column t := by
  obtain ⟨u, hcells, hcolumn⟩ := styleWholeColumn_eq_ok h
  obtain ⟨-, rfl⟩ := styleColumn_eq_ok hcolumn
  have hrestyled := (styleCells_eq_ok hcells).2
  refine ⟨?_, ?_, ?_, ?_, ?_, ?_⟩
  · rw [hrestyled.frame]
    rfl
  · exact hrestyled.pool.trans (u.pool.mergeInto_growsTo _ style)
  · intro a
    change (u.cell? a).map Cell.unstyled = _
    by_cases ha : a ∈ s.storedIn column
    · obtain ⟨place, hplace⟩ := hrestyled.inside a ha
      obtain ⟨c, hc⟩ := Option.isSome_iff_exists.mp (mem_storedIn_iff.mp ha).1
      rw [hplace, cellOrFresh, hc]
      rfl
    · rw [hrestyled.outside a ha]
  · intro a ha
    exact hrestyled.outside a fun hmem => ha (mem_storedIn_iff.mp hmem).2
  · refine ⟨some (u.columnMerge column style).1, ?_⟩
    have hfresh : u.columnOrFresh column = s.columnOrFresh column := by
      rw [columnOrFresh, columnOrFresh, hrestyled.columns_eq]
    rw [get?_changeColumn, if_pos rfl, ← hfresh]
    rfl
  · intro k hk
    rw [get?_changeColumn, if_neg hk]
    exact congrArg (·.get? k) hrestyled.columns_eq

theorem direct_styleWholeColumn (h : s.PlacesKnown)
    (hok : s.styleWholeColumn column style = ⟨t, none⟩) :
    t.PlacesKnown ∧ t.direct = s.direct.dressColumn column style := by
  obtain ⟨u, hcells, hcolumn⟩ := styleWholeColumn_eq_ok hok
  obtain ⟨hinner, hdirect⟩ := direct_styleCells h (s.nodup_storedIn column) hcells
  obtain ⟨hplaces, hsheet, -⟩ := styleColumn_refines hinner column style
  have hbounds := (styleColumn_eq_ok hcolumn).1
  rw [hcolumn] at hplaces hsheet
  refine ⟨hplaces, ?_⟩
  have hstored (b : Address) : b ∈ s.storedIn column ↔
      (s.direct.cells b).isSome = true ∧ b.column = column := by
    rw [mem_storedIn_iff, direct_cells, Option.isSome_map]
  have hset : (u.direct.styleColumn column style).sheet =
      u.direct.setColumn column fun c =>
        { c with style := some ((u.direct.columnStyle column).merge style) } := by
    rw [DirectSheet.styleColumn, DirectSheet.editColumn, checkColumn_eq_ok_iff.mpr hbounds]
    rfl
  rw [hset, hdirect] at hsheet
  exact hsheet.trans (DirectSheet.setColumn_dressCells hstored)

/-- Every place of a column that was styled shows the style on top. -/
theorem styleAt_styleWholeColumn (h : s.PlacesKnown)
    (hok : s.styleWholeColumn column style = ⟨t, none⟩) (a : Address) :
    t.styleAt a = if a.column = column then (s.styleAt a).merge style else s.styleAt a := by
  obtain ⟨hplaces, hdirect⟩ := direct_styleWholeColumn h hok
  rw [← direct_styleAt hplaces, hdirect, DirectSheet.styleAt_dressColumn, direct_styleAt h]

/-- After any run a whole column is styled by name unless a stored cell of it is
covered. Then nothing but styles changes, no cell is stored that was not, and
what shows the style is exactly the column. -/
theorem styleWholeColumnNamed_after (name : String) (operations : List Operation)
    (catalogue : Catalogue) (styleName : String) (style : Style) (column : Nat)
    (hstyle : catalogue.named styleName = .ok style)
    (hcolumn : 1 ≤ column ∧ column ≤ maxColumns) :
    let s := (new name).after operations
    let attempt := s.styleWholeColumnNamed catalogue column styleName
    (attempt.fault = none ↔ ∀ a, (s.cell? a).isSome = true → a.column = column →
        ∀ m ∈ s.merges, m.covers a = false) ∧
      (attempt.fault = none → s.ColumnRestyled column attempt.sheet ∧
        ((∀ operation ∈ operations, operation.StyleBlind) → ∀ a, attempt.sheet.styleAt a =
          if a.column = column then (s.styleAt a).merge style else s.styleAt a)) := by
  intro s attempt
  have hwithin : s.Within := (reached_after name operations).within
  have hattempt : attempt = ⟨(s.styleWholeColumn column style).sheet,
      (s.styleWholeColumn column style).fault.map .ofSheet⟩ :=
    styleNamed_of_ok hstyle (s.styleWholeColumn column)
  have hnone : attempt.fault = none ↔ ∃ t, s.styleWholeColumn column style = ⟨t, none⟩ := by
    rw [hattempt, Option.map_eq_none_iff]
    exact ⟨fun h => ⟨_, congrArg (Attempt.mk _) h⟩, fun ⟨t, ht⟩ => congrArg Attempt.fault ht⟩
  constructor
  · rw [hnone, exists_styleWholeColumn_iff]
    constructor
    · rintro ⟨-, hwritable⟩ a hstored hin
      exact coveringMerge?_eq_none_iff.mp (hwritable a (mem_storedIn_iff.mpr ⟨hstored, hin⟩)).2
    · intro huncovered
      refine ⟨hcolumn, ?_⟩
      intro a ha
      obtain ⟨hstored, hin⟩ := mem_storedIn_iff.mp ha
      exact ⟨hwithin.cells a hstored, coveringMerge?_eq_none_iff.mpr (huncovered a hstored hin)⟩
  · intro hfault
    obtain ⟨t, ht⟩ := hnone.mp hfault
    rw [hattempt, ht]
    refine ⟨columnRestyled_of_ok ht, ?_⟩
    intro hblind
    exact styleAt_styleWholeColumn (after_refines (.new name) hblind).1 ht

/-- A cell that was stored without a value and is covered by a region since then
stops the styling of its column. -/
theorem styleWholeColumnNamed_after_covered :
    let operations : List Operation :=
      [.edit (.value ⟨2, 1⟩ .null), .edit (.merge (.ofSpans ⟨1, 1⟩ 1 2))]
    let s := (new "Data").after operations
    (∀ operation ∈ operations, operation.StyleBlind) ∧
      (Catalogue.presets.named "int").toOption.isSome = true ∧
      (s.styleWholeColumnNamed Catalogue.presets 1 "int").fault =
        some (.mark (.coveredCell ⟨2, 1⟩ (Merge.ofSpans ⟨1, 1⟩ 1 2).range)) := by
  refine ⟨?_, ?_, ?_⟩
  · simp [Operation.StyleBlind]
  · decide +kernel
  · decide +kernel

/-- A column with a title above a region and a value below it. -/
theorem styleWholeColumnNamed_after_region :
    let operations : List Operation := [.edit (.styleColumn 2 { locked := some true }),
      .edit (.value ⟨1, 2⟩ (.text "Total")), .edit (.merge (.ofSpans ⟨1, 2⟩ 2 2)),
      .edit (.value ⟨3, 2⟩ (.boolean true))]
    let s := (new "Data").after operations
    let attempt := s.styleWholeColumnNamed Catalogue.presets 2 "warn"
    let style : Style := { fill := some (.rgb 0xFF 0xFF 0x99), locked := some true }
    attempt.fault = none ∧ s.ColumnRestyled 2 attempt.sheet ∧
      attempt.sheet.styleAt ⟨1, 2⟩ = style ∧ attempt.sheet.styleAt ⟨9, 2⟩ = style ∧
      attempt.sheet.styleAt ⟨9, 3⟩ = {} := by
  intro operations s attempt style
  have hblind : ∀ operation ∈ operations, operation.StyleBlind := by
    simp [operations, Operation.StyleBlind]
  have hnamed : Catalogue.presets.named "warn" = .ok { fill := some (.rgb 0xFF 0xFF 0x99) } := by
    rfl
  have hfault : attempt.fault = none := by decide +kernel
  obtain ⟨-, hok⟩ := styleWholeColumnNamed_after "Data" operations Catalogue.presets "warn" _ 2
    hnamed (by decide)
  obtain ⟨hrestyled, hstyleAt⟩ := hok hfault
  refine ⟨hfault, hrestyled, ?_, ?_, ?_⟩
  · rw [hstyleAt hblind]
    decide +kernel
  · rw [hstyleAt hblind]
    decide +kernel
  · rw [hstyleAt hblind]
    decide +kernel

end Sheet

end TableBook
