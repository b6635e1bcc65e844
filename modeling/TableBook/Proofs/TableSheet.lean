import TableBook.Proofs.LayoutRun
import TableBook.Table

namespace TableBook

open TableFault

namespace Sheet

variable {s t u : Sheet} {context : Context} {slots : List Slot}

theorem sameLayout_editColumn {column : Nat} {f : Column → Column}
    (h : s.editColumn column f = .ok t) : s.SameLayout t := by
  obtain ⟨-, rfl⟩ := editColumn_eq_ok_iff.mp h
  exact ⟨rfl, rfl⟩

theorem SameContents.sameLayout (h : s.SameContents t) : s.SameLayout t := ⟨h.grid, h.merges⟩

theorem sameLayout_withAutosize (s : Sheet) (table : Element) :
    s.SameLayout (s.withAutosize table) :=
  keeps_withAutosize table (.refl s) fun h hedit => h.trans (sameLayout_editColumn hedit)

structure Bare (s : Sheet) : Prop where
  cells : s.grid.cells = []
  merges : s.merges = []

namespace Bare

theorem new (name : String) : (Sheet.new name).Bare := ⟨rfl, rfl⟩

theorem of_sameLayout (h : s.Bare) (hsame : s.SameLayout t) : t.Bare where
  cells := by rw [hsame.grid, h.cells]
  merges := by rw [hsame.merges, h.merges]

theorem cell?_eq_none (h : s.Bare) (a : Address) : s.cell? a = none := by
  rw [cell?, ← Option.not_isSome_iff_eq_none, ← Grid.mem_map_cells_iff, h.cells]
  exact List.not_mem_nil

theorem laid (h : s.Bare) : s.Laid [] where
  stored := by
    intro a
    rw [cell?, ← Grid.mem_map_cells_iff, h.cells]
    rfl
  merges := h.merges
  fits := by simp
  ordered := .nil
  apart := .nil

theorem styleWholeColumn_eq (h : s.Bare) (column : Nat) (style : Style) :
    s.styleWholeColumn column style = s.styleColumn column style := by
  have hstored : s.storedIn column = [] := by
    rw [storedIn, h.cells]
    rfl
  rw [Sheet.styleWholeColumn, hstored]
  rfl

/-- Styling a whole column stores no new cell. -/
theorem styleWholeColumn (h : s.Bare) {column : Nat} {style : Style}
    (hok : (s.styleWholeColumn column style).toExcept = .ok t) : t.Bare := by
  rw [h.styleWholeColumn_eq, styleColumn_eq, toExcept_ofExcept] at hok
  have hpooled : (s.withPool (s.columnMerge column style).2).Bare := ⟨h.cells, h.merges⟩
  exact hpooled.of_sameLayout (sameLayout_editColumn hok)

theorem editColumn (h : s.Bare) {column : Nat} {f : Column → Column}
    (hok : s.editColumn column f = .ok t) : t.Bare :=
  h.of_sameLayout (sameLayout_editColumn hok)

theorem editColumnIf (h : s.Bare) {α : Type} {value : Option α} {column : Nat}
    {f : α → Column → Column}
    (hok : s.editIf value (fun s x => s.editColumn column (f x)) = .ok t) : t.Bare :=
  keeps_editIf h (fun _ => h.editColumn) hok

theorem withColumn (h : s.Bare) {column : Nat} {e : Element}
    (hok : s.withColumn context column e = .ok t) : t.Bare :=
  keeps_withColumn h (fun h => h.editColumn) (fun h => h.styleWholeColumn) hok

theorem withColumns (h : s.Bare) {column : Nat} {columns : List Element}
    (hok : s.withColumns context column columns = .ok t) : t.Bare :=
  keeps_withColumns h (fun h => h.editColumn) (fun h => h.styleWholeColumn) hok

end Bare

/-- The sheet of a table before its columns and rows are read. -/
def start (options : Options) (table : Element) (taken : List String) : Sheet :=
  let name := SheetName.ofAttribute table.sheetName
  let name := if options.dedupe then SheetName.dedupe name taken else name
  (Sheet.new name).withTableSettings table

theorem bare_start (options : Options) (table : Element) (taken : List String) :
    (start options table taken).Bare :=
  (Bare.new _).of_sameLayout (sameContents_withTableSettings _ table).sameLayout

theorem ofTable_eq (context : Context) (table : Element) (taken : List String) :
    ofTable context table taken =
      table.check context.options.strict >>= fun _ =>
        (start context.options table taken).withColumns context 1 table.columnElements >>= fun s =>
          s.placeRows context 1 table.tableRows >>= fun s => .ok (s.withAutosize table) := rfl

/-- The stages of the building of a sheet; its rows are placed on a bare one. -/
theorem ofTable_eq_ok {table : Element} {taken : List String}
    (h : Sheet.ofTable context table taken = .ok s) :
    ∃ t u, (start context.options table taken).withColumns context 1 table.columnElements = .ok t ∧
      t.Bare ∧ t.placeRows context 1 table.tableRows = .ok u ∧ s = u.withAutosize table := by
  rw [ofTable_eq, check_bind_eq_ok_iff] at h
  obtain ⟨t, hcolumns, h⟩ := bind_eq_ok_iff.mp h.2
  obtain ⟨u, hrows, hu⟩ := bind_eq_ok_iff.mp h
  have ht : t.Bare := (bare_start _ table taken).withColumns hcolumns
  exact ⟨t, u, hcolumns, ht, hrows, (Except.ok.inj hu).symm⟩

theorem laid_ofTable {table : Element} {taken : List String}
    (h : Sheet.ofTable context table taken = .ok s) :
    ∃ slots, TableLayout context.options.policy [] 1 table.tableRows slots ∧ s.Laid slots := by
  obtain ⟨t, u, -, ht, hrows, rfl⟩ := ofTable_eq_ok h
  obtain ⟨slots, hlayout, hlaid⟩ := ht.laid.placeRows (by simp) hrows
  exact ⟨slots, hlayout, hlaid.of_sameLayout (sameLayout_withAutosize u table)⟩

namespace Laid

theorem map_cells (h : s.Laid slots) : s.grid.cells.map (·.1) = slots.map Slot.address := by
  refine Address.eq_of_pairwise_before s.grid.map_cells_pairwise ?_ ?_
  · exact List.pairwise_map.mpr h.ordered
  · intro a
    rw [Grid.mem_map_cells_iff]
    exact h.stored a

theorem count_eq (h : s.Laid slots) : s.grid.count = slots.length := by
  have hlength := congrArg List.length h.map_cells
  rw [List.length_map, List.length_map] at hlength
  rw [Grid.count_eq_length, hlength]

end Laid

end Sheet

namespace Workbook

theorem forall₂_addTables {context : Context} {P : Element → Sheet → Prop}
    (hP : ∀ table taken s, Sheet.ofTable context table taken = .ok s → P table s)
    {w v : Workbook} {index : Nat} {tables : List Element}
    (h : addTables context w index tables = .ok v) :
    ∃ sheets, v.sheets = w.sheets ++ sheets ∧ List.Forall₂ P tables sheets := by
  induction tables generalizing w index with
  | nil =>
      cases h
      exact ⟨[], (List.append_nil _).symm, .nil⟩
  | cons table rest ih =>
      rw [addTables] at h
      split at h
      · next s hs =>
          obtain ⟨sheets, hsheets, hrest⟩ := ih h
          refine ⟨s :: sheets, ?_, .cons (hP table w.names s hs) hrest⟩
          rw [hsheets, push, List.append_assoc, List.singleton_append]
      · cases h

theorem forall₂_ofNodes {context : Context} {P : Element → Sheet → Prop}
    (hP : ∀ table taken s, Sheet.ofTable context table taken = .ok s → P table s)
    {nodes : List Node} {w : Workbook} (h : ofNodes context nodes = .ok w) :
    List.Forall₂ P (Node.findAll Element.isSheetTable nodes) w.sheets := by
  rw [ofNodes] at h
  split at h
  · cases h
  · obtain ⟨sheets, hsheets, hall⟩ := forall₂_addTables hP h
    rw [hsheets]
    exact hall

/-- Every sheet has one stored cell for each cell of its table, where the layout
rule puts it; the rectangles of the cells share nothing, and those of more than
one cell are the regions of the sheet. -/
theorem ofNodes_layout {context : Context} {nodes : List Node} {w : Workbook}
    (h : ofNodes context nodes = .ok w) :
    List.Forall₂
      (fun table s => ∃ slots,
        TableLayout context.options.policy [] 1 table.tableRows slots ∧
          slots.map Slot.cell = table.tableRows.flatMap Element.rowCells ∧
          s.grid.cells.map (·.1) = slots.map Slot.address ∧
          (slots.map Slot.address).Nodup ∧
          s.grid.count = (table.tableRows.flatMap Element.rowCells).length ∧
          slots.Pairwise Slot.Apart ∧
          s.merges = slots.filterMap Slot.merge? ∧
          ∀ t ∈ slots, ∀ m, t.merge? = some m →
            ∀ a, m.range.contains a = true ↔ t.Occupies a)
      (Node.findAll Element.isSheetTable nodes) w.sheets := by
  refine forall₂_ofNodes ?_ h
  intro table taken s hs
  obtain ⟨slots, hlayout, hlaid⟩ := Sheet.laid_ofTable hs
  refine ⟨slots, hlayout, hlayout.map_cell, hlaid.map_cells, ?_, ?_, hlaid.apart, hlaid.merges, ?_⟩
  · rw [List.nodup_iff_pairwise_ne, List.pairwise_map]
    exact hlaid.ordered.imp Address.Before.ne
  · rw [hlaid.count_eq, ← hlayout.map_cell, List.length_map]
  · intro t ht m hm a
    exact Slot.contains_iff_occupies (hlaid.fits t ht) hm

/-- Two rows under a cell of two columns and two rows: what follows it goes to
the third column. -/
theorem ofNodes_layout_square :
    let context : Context := ⟨∅, {}, {}⟩
    let square : Element :=
      ⟨"td", [(Mark.columnSpan.name, "2"), (Mark.rowSpan.name, "2")], [.text "a"]⟩
    let nodes : List Node := [.element ⟨"table", [(Mark.sheet.name, "Data")], [
      .element ⟨"tr", [], [.element square, .element ⟨"td", [], []⟩]⟩,
      .element ⟨"tr", [], [.element ⟨"th", [], [.text "b"]⟩]⟩]⟩]
    ∃ w, ofNodes context nodes = .ok w ∧
      w.sheets.map (fun s => (s.grid.cells.map (·.1), s.merges)) =
        [([⟨1, 1⟩, ⟨1, 3⟩, ⟨2, 3⟩], [Merge.ofSpans ⟨1, 1⟩ 2 2])] ∧
      List.Forall₂
        (fun table s => ∃ slots, TableLayout .skipCovered [] 1 table.tableRows slots ∧
          s.grid.cells.map (·.1) = slots.map Slot.address)
        (Node.findAll Element.isSheetTable nodes) w.sheets := by
  intro context square nodes
  have hsheets : ((ofNodes context nodes).toOption.map fun w =>
      w.sheets.map fun s => (s.grid.cells.map (·.1), s.merges)) =
        some [([⟨1, 1⟩, ⟨1, 3⟩, ⟨2, 3⟩], [Merge.ofSpans ⟨1, 1⟩ 2 2])] := by
    decide +kernel
  obtain ⟨w, h, hread⟩ := exists_ok_of_map_toOption hsheets
  refine ⟨w, h, hread, (ofNodes_layout h).imp ?_⟩
  rintro table s ⟨slots, hlayout, -, hcells, -⟩
  exact ⟨slots, hlayout, hcells⟩

end Workbook

end TableBook
