import TableBook.Proofs.DirectSheet
import TableBook.Proofs.Pool

/-!
The pool cannot be seen. A sheet stands for the direct sheet that has, in the
place of each style's place, the style itself; an operation of the one and the
same operation of the other end in the same fault and in sheets that again
stand for each other.
-/

namespace TableBook

namespace Pool

/-- A cell with the style that its place stands for. -/
def resolve (pool : Pool) (c : Cell) : DirectCell := .ofCell c (pool.style c.style)

def resolveColumn (pool : Pool) (c : Column) : DirectColumn :=
  .ofColumn c (c.style.map pool.style)

theorem resolve_of_growsTo {pool later : Pool} {c : Cell} (h : pool.GrowsTo later)
    (hc : c.style < pool.size) : later.resolve c = pool.resolve c := by
  rw [resolve, resolve, h.style_eq hc]

theorem resolveColumn_of_growsTo {pool later : Pool} {c : Column} (h : pool.GrowsTo later)
    (hc : ∀ place, c.style = some place → place < pool.size) :
    later.resolveColumn c = pool.resolveColumn c := by
  rw [resolveColumn, resolveColumn]
  cases hstyle : c.style with
  | none => rfl
  | some place => rw [Option.map_some, Option.map_some, h.style_eq (hc place hstyle)]

end Pool

namespace Operation

/-- The operation does not look at the place of a style and does not change it
by hand. -/
def StyleBlind : Operation → Prop
  | .cell _ f => ∀ c place, f { c with style := place } = { f c with style := place }
  | .column _ f => ∀ c place, f { c with style := place } = { f c with style := place }
  | .edit _ => True
  | .page _ => True

end Operation

namespace Sheet

variable {s t : Sheet} {a : Address} {column : Nat}

/-- The direct sheet that a sheet stands for. -/
def direct (s : Sheet) : DirectSheet where
  name := s.name
  cells a := (s.cell? a).map s.pool.resolve
  columns k := (s.columns.get? k).map s.pool.resolveColumn
  rows := s.rows
  merges := s.merges
  drawings := s.drawings
  freeze := s.freeze
  autoFilter := s.autoFilter
  defaultWidth := s.defaultWidth
  zoom := s.zoom
  tabColor := s.tabColor
  gridlines := s.gridlines
  page := s.page

theorem direct_cells (s : Sheet) (a : Address) :
    s.direct.cells a = (s.cell? a).map s.pool.resolve := rfl

theorem direct_columns (s : Sheet) (k : Nat) :
    s.direct.columns k = (s.columns.get? k).map s.pool.resolveColumn := rfl

/-- Every place that is held is in the pool, place 0 is the empty style, and no
merge was ever remembered for a place before it was there. -/
structure PlacesKnown (s : Sheet) : Prop where
  faithful : s.pool.Faithful fun _ _ => False
  empty : s.pool.get? 0 = some {}
  cell_lt : ∀ {a c}, s.cell? a = some c → c.style < s.pool.size
  column_lt : ∀ {k c place}, s.columns.get? k = some c → c.style = some place →
    place < s.pool.size
  inBounds : ∀ {a c}, s.cell? a = some c → a.InBounds

namespace PlacesKnown

theorem new (name : String) : (Sheet.new name).PlacesKnown where
  faithful := .new
  empty := rfl
  cell_lt h := by cases h
  column_lt h := by cases h
  inBounds h := by cases h

theorem of_same (h : s.PlacesKnown) (hgrid : t.grid = s.grid) (hpool : t.pool = s.pool)
    (hcolumns : t.columns = s.columns) : t.PlacesKnown := by
  obtain ⟨hfaithful, hempty, hcell, hcolumn, hbounds⟩ := h
  unfold cell? at hcell hbounds
  rw [← hpool] at hfaithful hempty hcell hcolumn
  rw [← hgrid] at hcell hbounds
  rw [← hcolumns] at hcolumn
  exact ⟨hfaithful, hempty, hcell, hcolumn, hbounds⟩

theorem columnStyle_lt (h : s.PlacesKnown) (column : Nat) :
    s.columnStyle column < s.pool.size := by
  rw [columnStyle]
  cases hcolumn : s.columns.get? column with
  | none => exact Pool.lt_size_of_get? h.empty
  | some c =>
      rw [Option.bind_some]
      cases hstyle : c.style with
      | none => exact Pool.lt_size_of_get? h.empty
      | some place => exact h.column_lt hcolumn hstyle

theorem stylePlace_lt (h : s.PlacesKnown) (a : Address) : s.stylePlace a < s.pool.size := by
  rw [stylePlace]
  split
  · next hcell => exact h.cell_lt hcell
  · exact h.columnStyle_lt a.column

theorem withPool (h : s.PlacesKnown) {pool : Pool} (hgrows : s.pool.GrowsTo pool)
    (hfaithful : pool.Faithful fun _ _ => False) : (s.withPool pool).PlacesKnown where
  faithful := hfaithful
  empty := hgrows.get? h.empty
  cell_lt hcell := Nat.lt_of_lt_of_le (h.cell_lt hcell) hgrows.size_le
  column_lt hcolumn hstyle := Nat.lt_of_lt_of_le (h.column_lt hcolumn hstyle) hgrows.size_le
  inBounds := h.inBounds

theorem withMerge (h : s.PlacesKnown) {base : Nat} (hbase : base < s.pool.size) (style : Style) :
    (s.withPool (s.pool.mergeInto base style).2).PlacesKnown := by
  refine h.withPool (s.pool.mergeInto_growsTo base style) (h.faithful.mergeInto ?_)
  intro _ _
  exact ⟨False.elim, Nat.not_le.mpr hbase⟩

theorem style_merge (h : s.PlacesKnown) (base : Nat) (style : Style) :
    (s.pool.mergeInto base style).2.style (s.pool.mergeInto base style).1 =
      (s.pool.style base).merge style :=
  Pool.style_of_get? (h.faithful.get?_mergeInto id)

theorem merge_lt (h : s.PlacesKnown) (base : Nat) (style : Style) :
    (s.pool.mergeInto base style).1 < (s.pool.mergeInto base style).2.size :=
  Pool.lt_size_of_get? (h.faithful.get?_mergeInto id)

end PlacesKnown

theorem direct_withPool (h : s.PlacesKnown) {pool : Pool} (hgrows : s.pool.GrowsTo pool) :
    (s.withPool pool).direct = s.direct := by
  have hcells : (s.withPool pool).direct.cells = s.direct.cells := by
    funext a
    apply Option.map_congr
    intro c hc
    exact Pool.resolve_of_growsTo hgrows (h.cell_lt hc)
  have hcolumns : (s.withPool pool).direct.columns = s.direct.columns := by
    funext k
    apply Option.map_congr
    intro c hc
    exact Pool.resolveColumn_of_growsTo hgrows fun place => h.column_lt hc
  exact congrArg₂ (fun cells columns => { s.direct with cells, columns }) hcells hcolumns

theorem direct_columnStyle (h : s.PlacesKnown) (column : Nat) :
    s.direct.columnStyle column = s.pool.style (s.columnStyle column) := by
  have hempty : s.pool.style 0 = {} := Pool.style_of_get? h.empty
  rw [DirectSheet.columnStyle, columnStyle, direct_columns]
  cases s.columns.get? column with
  | none => exact hempty.symm
  | some c =>
      simp only [Option.map_some, Option.bind_some, Pool.resolveColumn, DirectColumn.ofColumn]
      cases c.style with
      | none => exact hempty.symm
      | some place => rfl

theorem direct_styleAt (h : s.PlacesKnown) (a : Address) :
    s.direct.styleAt a = s.styleAt a := by
  rw [styleAt, stylePlace, DirectSheet.styleAt, direct_cells]
  cases s.cell? a with
  | none => exact direct_columnStyle h a.column
  | some c => rfl

theorem cellOrFresh_style (s : Sheet) (a : Address) : (s.cellOrFresh a).style = s.stylePlace a := by
  rw [cellOrFresh, stylePlace]
  cases s.cell? a <;> rfl

theorem resolve_cellOrFresh (h : s.PlacesKnown) (a : Address) :
    s.pool.resolve (s.cellOrFresh a) =
      (s.direct.cells a).getD { style := s.direct.columnStyle a.column } := by
  rw [cellOrFresh, direct_cells, direct_columnStyle h]
  cases s.cell? a <;> rfl

theorem PlacesKnown.changeCell (h : s.PlacesKnown) {f : Cell → Cell} (ha : a.InBounds)
    (hf : (f (s.cellOrFresh a)).style < s.pool.size) : (s.changeCell a f).PlacesKnown where
  faithful := h.faithful
  empty := h.empty
  cell_lt := by
    intro b c hcell
    rw [cell?_changeCell] at hcell
    split at hcell
    · cases hcell
      exact hf
    · exact h.cell_lt hcell
  column_lt := h.column_lt
  inBounds := by
    intro b c hcell
    rw [cell?_changeCell] at hcell
    split at hcell
    · next hba => exact hba ▸ ha
    · exact h.inBounds hcell

theorem direct_changeCell (h : s.PlacesKnown) {f : Cell → Cell} {g : DirectCell → DirectCell}
    (hfg : s.pool.resolve (f (s.cellOrFresh a)) = g (s.pool.resolve (s.cellOrFresh a))) :
    (s.changeCell a f).direct = s.direct.setCell a g := by
  have hcells : (s.changeCell a f).direct.cells = (s.direct.setCell a g).cells := by
    funext b
    change ((s.changeCell a f).cell? b).map s.pool.resolve =
      if b = a then some (g ((s.direct.cells a).getD _)) else (s.cell? b).map s.pool.resolve
    rw [cell?_changeCell, ← resolve_cellOrFresh h, ← hfg]
    split <;> rfl
  exact congrArg (fun cells => { s.direct with cells }) hcells

theorem PlacesKnown.changeColumn (h : s.PlacesKnown) {f : Column → Column}
    (hf : ∀ place, (f (s.columnOrFresh column)).style = some place → place < s.pool.size) :
    (s.changeColumn column f).PlacesKnown where
  faithful := h.faithful
  empty := h.empty
  cell_lt := h.cell_lt
  column_lt := by
    intro k c place hcolumn hstyle
    rw [get?_changeColumn] at hcolumn
    split at hcolumn
    · cases hcolumn
      exact hf place hstyle
    · exact h.column_lt hcolumn hstyle
  inBounds := h.inBounds

theorem direct_changeColumn {f : Column → Column} {g : DirectColumn → DirectColumn}
    (hfg : s.pool.resolveColumn (f (s.columnOrFresh column)) =
      g (s.pool.resolveColumn (s.columnOrFresh column))) :
    (s.changeColumn column f).direct = s.direct.setColumn column g := by
  have hfresh : (s.direct.columns column).getD {} =
      s.pool.resolveColumn (s.columnOrFresh column) := by
    rw [columnOrFresh, direct_columns]
    cases s.columns.get? column <;> rfl
  have hcolumns : (s.changeColumn column f).direct.columns =
      (s.direct.setColumn column g).columns := by
    funext k
    change ((s.changeColumn column f).columns.get? k).map s.pool.resolveColumn =
      if k = column then some (g ((s.direct.columns column).getD {}))
      else (s.columns.get? k).map s.pool.resolveColumn
    rw [get?_changeColumn, hfresh, ← hfg]
    split <;> rfl
  exact congrArg (fun columns => { s.direct with columns }) hcolumns

namespace Attempt

/-- Both attempts ended in the same fault, in sheets that stand for each other. -/
structure Refines (attempt : Attempt) (direct : DirectAttempt) : Prop where
  placesKnown : attempt.sheet.PlacesKnown
  sheet_eq : attempt.sheet.direct = direct.sheet
  fault_eq : attempt.fault = direct.fault

theorem Refines.andThen {attempt : Attempt} {direct : DirectAttempt} {next : Sheet → Attempt}
    {directNext : DirectSheet → DirectAttempt} (h : attempt.Refines direct)
    (hnext : ∀ t : Sheet, t.PlacesKnown → (next t).Refines (directNext t.direct)) :
    (attempt.andThen next).Refines (direct.andThen directNext) := by
  obtain ⟨hplaces, hsheet, hfault⟩ := h
  obtain ⟨t, fault⟩ := attempt
  obtain ⟨d, _⟩ := direct
  subst hsheet hfault
  cases fault with
  | none => exact hnext t hplaces
  | some fault => exact ⟨hplaces, rfl, rfl⟩

end Attempt

open Attempt (Refines)

theorem refines_of_check (h : s.PlacesKnown) {check : Except SheetFault Unit} {d : DirectSheet}
    (ht : check = .ok () → t.PlacesKnown ∧ t.direct = d) :
    (Attempt.ofExcept s (check >>= fun _ => .ok t)).Refines
      (.ofExcept s.direct (check >>= fun _ => .ok d)) := by
  cases check with
  | error fault => exact ⟨h, rfl, rfl⟩
  | ok =>
      obtain ⟨hplaces, hsheet⟩ := ht rfl
      exact ⟨hplaces, hsheet, rfl⟩

theorem editCell_refines (h : s.PlacesKnown) {f : Cell → Cell}
    (hf : (Operation.cell a f).StyleBlind) :
    (Attempt.ofExcept s (s.editCell a f)).Refines
      (.ofExcept s.direct (s.direct.editCell a (.edit f))) := by
  apply refines_of_check h (t := s.changeCell a f)
  intro hcheck
  have hkeep (c : Cell) : (f c).style = c.style := by
    rw [show f c = { f c with style := c.style } from hf c c.style]
  have hbounds : a.InBounds := (checkWritable_eq_ok_iff.mp hcheck).1
  constructor
  · apply h.changeCell hbounds
    rw [hkeep, cellOrFresh_style]
    exact h.stylePlace_lt a
  · apply direct_changeCell h
    generalize s.cellOrFresh a = c
    have hcontent : f { c with style := 0 } = { f c with style := 0 } := hf c 0
    change DirectCell.ofCell (f c) (s.pool.style (f c).style) =
      .ofCell (f { c with style := 0 }) (s.pool.style c.style)
    rw [hkeep, hcontent]
    rfl

theorem styleCell_refines (h : s.PlacesKnown) (a : Address) (style : Style) :
    (Attempt.ofExcept s (s.styleCell a style)).Refines
      (.ofExcept s.direct (s.direct.styleCell a style)) := by
  rw [styleCell_eq]
  apply refines_of_check h
  intro hcheck
  have hbounds : a.InBounds := (checkWritable_eq_ok_iff.mp hcheck).1
  have hpooled := h.withMerge (h.stylePlace_lt a) style
  have hdirect := direct_withPool h (s.pool.mergeInto_growsTo (s.stylePlace a) style)
  constructor
  · exact hpooled.changeCell hbounds (h.merge_lt (s.stylePlace a) style)
  · rw [← hdirect]
    apply direct_changeCell hpooled
    have hstyle := s.cellOrFresh_style a
    change DirectCell.ofCell (s.cellOrFresh a) ((s.cellMerge a style).2.style _) =
      .ofCell (s.cellOrFresh a) (((s.cellMerge a style).2.style (s.cellOrFresh a).style).merge style)
    rw [hstyle, cellMerge, h.style_merge,
      (s.pool.mergeInto_growsTo (s.stylePlace a) style).style_eq (h.stylePlace_lt a)]

theorem styleCells_refines (h : s.PlacesKnown) (style : Style) (positions : List Address) :
    (s.styleCells style positions).Refines (s.direct.styleCells style positions) := by
  induction positions generalizing s with
  | nil => exact ⟨h, rfl, rfl⟩
  | cons a rest ih => exact (styleCell_refines h a style).andThen fun t ht => ih ht

theorem styleRange_refines (h : s.PlacesKnown) (range : Range) (style : Style) :
    (s.styleRange range style).Refines (s.direct.styleRange range style) := by
  have huncovered : (range.cells.filter fun a => (s.coveringMerge? a).isNone) =
      range.cells.filter fun a => !s.direct.merges.any (·.covers a) := by
    apply List.filter_congr
    intro a _
    rw [Bool.eq_iff_iff, Option.isNone_iff_eq_none, coveringMerge?_eq_none_iff]
    simp [direct]
  rw [styleRange, DirectSheet.styleRange, huncovered]
  exact styleCells_refines h style _

theorem editColumn_refines (h : s.PlacesKnown) {f : Column → Column}
    (hf : (Operation.column column f).StyleBlind) :
    (Attempt.ofExcept s (s.editColumn column f)).Refines
      (.ofExcept s.direct (s.direct.editColumn column (.edit f))) := by
  apply refines_of_check h (t := s.changeColumn column f)
  intro _
  have hkeep (c : Column) : (f c).style = c.style := by
    rw [show f c = { f c with style := c.style } from hf c c.style]
  constructor
  · apply h.changeColumn
    intro place hplace
    rw [hkeep, columnOrFresh] at hplace
    cases hcolumn : s.columns.get? column with
    | none => simp [hcolumn] at hplace
    | some c =>
        rw [hcolumn] at hplace
        exact h.column_lt hcolumn hplace
  · apply direct_changeColumn
    generalize s.columnOrFresh column = c
    have hsettings : f { c with style := none } = { f c with style := none } := hf c none
    change DirectColumn.ofColumn (f c) ((f c).style.map s.pool.style) =
      .ofColumn (f { c with style := none }) (c.style.map s.pool.style)
    rw [hkeep, hsettings]
    rfl

theorem styleColumn_refines (h : s.PlacesKnown) (column : Nat) (style : Style) :
    (s.styleColumn column style).Refines (s.direct.styleColumn column style) := by
  have hpooled : (s.withPool (s.columnMerge column style).2).PlacesKnown :=
    h.withMerge (h.columnStyle_lt column) style
  have hdirect : (s.withPool (s.columnMerge column style).2).direct = s.direct :=
    direct_withPool h (s.pool.mergeInto_growsTo (s.columnStyle column) style)
  have hstyle : (s.columnMerge column style).2.style (s.columnMerge column style).1 =
      (s.direct.columnStyle column).merge style := by
    rw [direct_columnStyle h]
    exact h.style_merge (s.columnStyle column) style
  have hplace : (s.columnMerge column style).1 < (s.columnMerge column style).2.size :=
    h.merge_lt (s.columnStyle column) style
  rw [styleColumn_eq, DirectSheet.styleColumn, ← hstyle]
  generalize s.columnMerge column style = merged at *
  rw [← hdirect, editColumn_eq]
  apply refines_of_check hpooled
  intro _
  constructor
  · apply hpooled.changeColumn
    intro place hnew
    exact Option.some.inj hnew ▸ hplace
  · apply direct_changeColumn
    rfl

theorem direct_storedIn (h : s.PlacesKnown) (column : Nat) :
    s.storedIn column = s.direct.storedIn column := by
  refine Address.eq_of_pairwise_before ?_ ?_ ?_
  · exact s.grid.map_cells_pairwise.filter _
  · apply List.Pairwise.filter _
    rw [List.pairwise_map]
    apply List.pairwise_lt_range.imp
    intro i j hij
    exact .inl (Nat.succ_lt_succ hij)
  · intro a
    rw [storedIn, DirectSheet.storedIn, List.mem_filter, List.mem_filter, Grid.mem_map_cells_iff,
      direct_cells, Option.isSome_map]
    constructor
    · rintro ⟨hstored, hcolumn⟩
      obtain ⟨c, hc⟩ := Option.isSome_iff_exists.mp hstored
      obtain ⟨hone, hrow, -, -⟩ : a.InBounds := h.inBounds hc
      refine ⟨List.mem_map.mpr ⟨a.row - 1, ?_, ?_⟩, hstored⟩
      · rw [List.mem_range]
        omega
      · rw [Nat.sub_add_cancel hone, ← beq_iff_eq.mp hcolumn]
    · rintro ⟨hposition, hstored⟩
      obtain ⟨_, -, rfl⟩ := List.mem_map.mp hposition
      exact ⟨hstored, beq_self_eq_true column⟩

theorem styleWholeColumn_refines (h : s.PlacesKnown) (column : Nat) (style : Style) :
    (s.styleWholeColumn column style).Refines (s.direct.styleWholeColumn column style) := by
  rw [styleWholeColumn, DirectSheet.styleWholeColumn, direct_storedIn h]
  exact (styleCells_refines h style _).andThen fun t ht => styleColumn_refines ht column style

theorem direct_hasValue (s : Sheet) (a : Address) :
    s.direct.hasValue a = (s.cell? a).any (·.hasValue) := by
  rw [DirectSheet.hasValue, direct_cells]
  cases s.cell? a <;> rfl

/-- The stored cells of a region and all its cells give the same first value. -/
theorem map_find?_cellsIn (s : Sheet) (m : Merge) :
    ((s.grid.cellsIn m.range).find? fun (a, c) => a ≠ m.anchor && c.hasValue).map (·.1) =
      m.range.cells.find? fun a => m.covers a && s.direct.hasValue a := by
  have hvalue : ((s.grid.cellsIn m.range).find? fun (a, c) => a ≠ m.anchor && c.hasValue) =
      (s.grid.cellsIn m.range).find? ((fun a => m.covers a && s.direct.hasValue a) ∘ (·.1)) := by
    rw [← List.head?_filter, ← List.head?_filter]
    refine congrArg List.head? (List.filter_congr ?_)
    rintro ⟨a, c⟩ hmem
    obtain ⟨hcell, hin⟩ := Grid.mem_cellsIn_iff.mp hmem
    have hvalue : s.direct.hasValue a = c.hasValue := by
      rw [direct_hasValue, cell?, hcell]
      rfl
    simp [Function.comp_apply, Merge.covers, hin, hvalue]
  rw [hvalue, ← List.find?_map]
  refine Address.find?_eq_of_pairwise_before ?_ m.range.cells_pairwise ?_
  · rw [Grid.cellsIn_eq_filter, List.pairwise_map]
    exact s.grid.cells_pairwise.filter _
  · intro a
    rw [Range.mem_cells_iff, List.mem_map]
    constructor
    · rintro ⟨⟨⟨_, c⟩, hmem, rfl⟩, hp⟩
      exact ⟨(Grid.mem_cellsIn_iff.mp hmem).2, hp⟩
    · rintro ⟨hin, hp⟩
      have hvalue : s.direct.hasValue a = true := (Bool.and_eq_true_iff.mp hp).2
      rw [direct_hasValue, Option.any_eq_true] at hvalue
      obtain ⟨c, hcell, -⟩ := hvalue
      exact ⟨⟨(a, c), Grid.mem_cellsIn_iff.mpr ⟨hcell, hin⟩, rfl⟩, hp⟩

theorem merge_refines (h : s.PlacesKnown) (m : Merge) :
    (Attempt.ofExcept s (s.merge m)).Refines (.ofExcept s.direct (s.direct.merge m)) := by
  have hfind := s.map_find?_cellsIn m
  rw [merge, DirectSheet.merge, ← hfind]
  by_cases hrow : maxRows < m.range.last.row
  · simp only [hrow, if_true]
    exact ⟨h, rfl, rfl⟩
  by_cases hcolumn : maxColumns < m.range.last.column
  · simp only [hrow, hcolumn, if_true, if_false]
    exact ⟨h, rfl, rfl⟩
  simp only [hrow, hcolumn, if_false]
  have hmerges : s.direct.merges = s.merges := rfl
  rw [hmerges]
  cases s.merges.find? fun other => other.range.overlaps m.range with
  | some existing => exact ⟨h, rfl, rfl⟩
  | none =>
      cases (s.grid.cellsIn m.range).find? fun (a, c) => a ≠ m.anchor && c.hasValue with
      | some found => exact ⟨h, rfl, rfl⟩
      | none => exact ⟨h.of_same rfl rfl rfl, rfl, rfl⟩

theorem attempt_refines (h : s.PlacesKnown) (edit : Edit) :
    (s.attempt edit).Refines (s.direct.attempt edit) := by
  cases edit with
  | value => exact editCell_refines h fun _ _ => rfl
  | explicitText => exact editCell_refines h fun _ _ => rfl
  | formula => exact editCell_refines h fun _ _ => rfl
  | link => exact editCell_refines h fun _ _ => rfl
  | comment => exact editCell_refines h fun _ _ => rfl
  | choices => exact editCell_refines h fun _ _ => rfl
  | style a style => exact styleCell_refines h a style
  | styleRange range style => exact styleRange_refines h range style
  | styleColumn column style => exact styleColumn_refines h column style
  | styleWholeColumn column style => exact styleWholeColumn_refines h column style
  | columnWidth column width =>
      exact editColumn_refines (f := fun c => { c with width := some width }) h fun _ _ => rfl
  | columnHidden column hidden =>
      exact editColumn_refines (f := fun c => { c with hidden }) h fun _ _ => rfl
  | columnAutoSize column autoSize =>
      exact editColumn_refines (f := fun c => { c with autoSize }) h fun _ _ => rfl
  | rowHeight row height =>
      apply refines_of_check h
      intro _
      exact ⟨h.of_same rfl rfl rfl, rfl⟩
  | merge m => exact merge_refines h m
  | _ => exact ⟨h.of_same rfl rfl rfl, rfl, rfl⟩

theorem perform_refines (h : s.PlacesKnown) {operation : Operation}
    (hblind : operation.StyleBlind) :
    (s.perform operation).Refines (s.direct.perform operation) := by
  cases operation with
  | edit edit => exact attempt_refines h edit
  | cell => exact editCell_refines h hblind
  | column => exact editColumn_refines h hblind
  | page => exact ⟨h.of_same rfl rfl rfl, rfl, rfl⟩

theorem after_refines (h : s.PlacesKnown) {operations : List Operation}
    (hblind : ∀ operation ∈ operations, operation.StyleBlind) :
    (s.after operations).PlacesKnown ∧
      (s.after operations).direct = s.direct.after operations := by
  induction operations generalizing s with
  | nil => exact ⟨h, rfl⟩
  | cons operation rest ih =>
      rw [List.forall_mem_cons] at hblind
      have hstep := perform_refines h hblind.1
      have hrest := ih hstep.placesKnown hblind.2
      rw [hstep.sheet_eq] at hrest
      exact hrest

/-- After any run a sheet shows the styles of the direct sheet, holds no place
that its pool lacks, and ends the next operation in the same fault. -/
theorem after_direct (name : String) (operations : List Operation)
    (hblind : ∀ operation ∈ operations, operation.StyleBlind) :
    let s := (Sheet.new name).after operations
    let d := (DirectSheet.new name).after operations
    s.direct = d ∧
      (∀ a, s.styleAt a = d.styleAt a) ∧
      (∀ a c, s.cell? a = some c → c.style < s.pool.size) ∧
      (∀ k c place, s.columns.get? k = some c → c.style = some place → place < s.pool.size) ∧
      ∀ operation : Operation, operation.StyleBlind →
        (s.perform operation).fault = (d.perform operation).fault := by
  have hnew : (Sheet.new name).direct = DirectSheet.new name := rfl
  obtain ⟨hplaces, hsheet⟩ := after_refines (.new name) hblind
  rw [hnew] at hsheet
  intro s d
  rw [show d = s.direct from hsheet.symm]
  refine ⟨rfl, ?_, ?_, ?_, ?_⟩
  · intro a
    exact (direct_styleAt hplaces a).symm
  · intro a c
    exact hplaces.cell_lt
  · intro k c place
    exact hplaces.column_lt
  · intro operation hoperation
    exact (perform_refines hplaces hoperation).fault_eq

/-- A new cell takes the bold of its column over and is then made italic; the
column locked later does not reach it. -/
theorem after_direct_column_then_cell :
    let bold : Style := { font := { bold := some true } }
    let italic : Style := { font := { italic := some true } }
    let operations : List Operation := [.edit (.styleColumn 1 bold),
      .cell ⟨2, 1⟩ (·.withValue (.boolean true)), .edit (.style ⟨2, 1⟩ italic),
      .edit (.merge (.ofSpans ⟨2, 1⟩ 2 2)), .edit (.value ⟨3, 1⟩ .null),
      .edit (.styleColumn 1 { locked := some true })]
    let s := (Sheet.new "Data").after operations
    (∀ operation ∈ operations, operation.StyleBlind) ∧
      s.styleAt ⟨2, 1⟩ = { font := { bold := some true, italic := some true } } ∧
      (s.perform (.edit (.style ⟨3, 1⟩ bold))).fault =
        some (.coveredCell ⟨3, 1⟩ (Merge.ofSpans ⟨2, 1⟩ 2 2).range) := by
  intro bold italic operations s
  have hblind : ∀ operation ∈ operations, operation.StyleBlind := by
    simp [operations, Operation.StyleBlind, Cell.withValue]
  obtain ⟨-, hstyle, -, -, hfault⟩ := after_direct "Data" operations hblind
  refine ⟨hblind, ?_, ?_⟩
  · rw [hstyle]
    decide
  · rw [hfault (.edit (.style ⟨3, 1⟩ bold)) trivial]
    decide

end Sheet

end TableBook
