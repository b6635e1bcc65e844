import TableBook.Proofs.ManyCells

namespace TableBook.Sheet

variable {s t : Sheet} {range : Range} {style : Style} {a : Address}

/-- Styling a range styles a position. -/
def Stylable (s : Sheet) (range : Range) (a : Address) : Prop :=
  range.contains a = true ∧ ∀ m ∈ s.merges, m.covers a = false

instance : Decidable (s.Stylable range a) :=
  inferInstanceAs (Decidable (_ ∧ ∀ m ∈ s.merges, _))

/-- The positions that it styles, in its order. -/
def stylableCells (s : Sheet) (range : Range) : List Address :=
  range.cells.filter fun a => (s.coveringMerge? a).isNone

theorem styleRange_eq (s : Sheet) (range : Range) (style : Style) :
    s.styleRange range style = s.styleCells style (s.stylableCells range) := rfl

theorem mem_stylableCells_iff : a ∈ s.stylableCells range ↔ s.Stylable range a := by
  rw [stylableCells, List.mem_filter, Range.mem_cells_iff, Option.isNone_iff_eq_none,
    coveringMerge?_eq_none_iff, Stylable]

theorem nodup_stylableCells (s : Sheet) (range : Range) : (s.stylableCells range).Nodup :=
  range.nodup_cells.filter _

theorem Stylable.writable (h : s.Stylable range a) (hfirst : range.first.InBounds)
    (hlast : range.last.InBounds) : s.Writable a := by
  obtain ⟨⟨hfirstRow, hlastRow⟩, hfirstColumn, hlastColumn⟩ := Range.contains_iff.mp h.1
  obtain ⟨hrow, -, hcolumn, -⟩ := hfirst
  obtain ⟨-, hmaxRow, -, hmaxColumn⟩ := hlast
  exact ⟨⟨hrow.trans hfirstRow, hlastRow.trans hmaxRow, hcolumn.trans hfirstColumn,
    hlastColumn.trans hmaxColumn⟩, coveringMerge?_eq_none_iff.mpr h.2⟩

/-- `t` is `s` with a style merged once into every position of a range that can take it. -/
structure RangeStyled (s : Sheet) (range : Range) (style : Style) (t : Sheet) : Prop where
  frame : t = { s with grid := t.grid, pool := t.pool }
  stored : ∀ a, s.Stylable range a →
    ∃ place, t.cell? a = some { (s.cell? a).getD {} with style := place }
  shown : ∀ a, s.Stylable range a → t.styleAt a = (s.styleAt a).merge style
  rules : ∀ a, s.Stylable range a → (t.styleAt a).rules = (s.styleAt a).rules ++ style.rules
  others : ∀ a, ¬s.Stylable range a → t.cell? a = s.cell? a ∧ t.styleAt a = s.styleAt a

theorem rangeStyled_of_ok (h : s.PlacesKnown) (hok : s.styleRange range style = ⟨t, none⟩) :
    s.RangeStyled range style t := by
  rw [styleRange_eq] at hok
  obtain ⟨-, hrestyled⟩ := styleCells_eq_ok hok
  obtain ⟨hplaces, hdirect⟩ := direct_styleCells h (s.nodup_stylableCells range) hok
  have hstyleAt (a : Address) : t.styleAt a =
      if a ∈ s.stylableCells range then (s.styleAt a).merge style else s.styleAt a := by
    rw [← direct_styleAt hplaces, hdirect, DirectSheet.styleAt_dressCells, direct_styleAt h]
  have hshown : ∀ a, s.Stylable range a → t.styleAt a = (s.styleAt a).merge style := by
    intro a ha
    rw [hstyleAt, if_pos (mem_stylableCells_iff.mpr ha)]
  refine ⟨hrestyled.frame, ?_, hshown, ?_, ?_⟩
  · intro a ha
    obtain ⟨place, hplace⟩ := hrestyled.inside a (mem_stylableCells_iff.mpr ha)
    refine ⟨place, ?_⟩
    rw [hplace, cellOrFresh]
    cases s.cell? a <;> rfl
  · intro a ha
    rw [hshown a ha]
    rfl
  · intro a ha
    have hmem : a ∉ s.stylableCells range := mem_stylableCells_iff.not.mpr ha
    exact ⟨hrestyled.outside a hmem, (hstyleAt a).trans (if_neg hmem)⟩

/-- After any run that leaves styles to the sheet, a style can be put on every range
inside the bounds. -/
theorem styleRange_after (name : String) (operations : List Operation)
    (hblind : ∀ operation ∈ operations, operation.StyleBlind) (range : Range)
    (hfirst : range.first.InBounds) (hlast : range.last.InBounds) (style : Style) :
    let s := (new name).after operations
    ∃ t, s.styleRange range style = ⟨t, none⟩ ∧ s.RangeStyled range style t := by
  intro s
  have hplaces : s.PlacesKnown := (after_refines (.new name) hblind).1
  have hwritable : ∀ a ∈ s.stylableCells range, s.Writable a := by
    intro a ha
    exact (mem_stylableCells_iff.mp ha).writable hfirst hlast
  obtain ⟨t, ht⟩ := exists_styleCells hwritable style
  exact ⟨t, ht, rangeStyled_of_ok hplaces ht⟩

/-- A range over a stored cell and a locked column, with one region that starts in it and
one that reaches into it. -/
theorem styleRange_after_regions :
    let operations : List Operation := [.edit (.styleColumn 2 { locked := some true }),
      .edit (.value ⟨2, 1⟩ (.boolean true)), .edit (.merge (.ofSpans ⟨3, 2⟩ 2 1)),
      .edit (.merge (.ofSpans ⟨1, 3⟩ 1 2))]
    let s := (new "Data").after operations
    let range : Range := .ofCorners ⟨2, 1⟩ ⟨3, 3⟩
    let red : Style := { fill := some (.rgb 0xFF 0 0) }
    ∃ t, s.styleRange range red = ⟨t, none⟩ ∧ s.RangeStyled range red t ∧
      (t.cell? ⟨2, 1⟩).map (·.value) = some (.boolean true) ∧
      t.styleAt ⟨3, 2⟩ = { fill := some (.rgb 0xFF 0 0), locked := some true } ∧
      t.cell? ⟨2, 3⟩ = none ∧ t.cell? ⟨3, 3⟩ = none := by
  intro operations s range red
  have hblind : ∀ operation ∈ operations, operation.StyleBlind := by
    simp [operations, Operation.StyleBlind]
  obtain ⟨t, ht, hstyled⟩ :=
    styleRange_after "Data" operations hblind range (by decide) (by decide) red
  have hstored : s.Stylable range ⟨2, 1⟩ := by decide +kernel
  have hanchor : s.Stylable range ⟨3, 2⟩ := by decide +kernel
  have hcovered : ¬s.Stylable range ⟨2, 3⟩ ∧ ¬s.Stylable range ⟨3, 3⟩ := by decide +kernel
  refine ⟨t, ht, hstyled, ?_, ?_, ?_, ?_⟩
  · obtain ⟨place, hplace⟩ := hstyled.stored _ hstored
    have hvalue : ((s.cell? ⟨2, 1⟩).getD {}).value = .boolean true := by decide +kernel
    rw [hplace]
    exact congrArg some hvalue
  · rw [hstyled.shown _ hanchor]
    decide +kernel
  · rw [(hstyled.others _ hcovered.1).1]
    decide +kernel
  · rw [(hstyled.others _ hcovered.2).1]
    decide +kernel

end TableBook.Sheet
