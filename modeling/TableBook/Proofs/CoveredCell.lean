import TableBook.Proofs.CellFault
import TableBook.Proofs.TableSheet

/-!
Cells in what a region covers. A sheet refuses to write them, and it refuses a
region over cells that hold a value. Where cells go to the next free column
neither ever happens: the search leaves every region behind, and all cells that
are stored by then come before the new one.
-/

namespace TableBook

/-- A cell lies in what a region covers. -/
def TableFault.IsCovered : TableFault → Prop
  | .mark (.coveredCell _ _) => True
  | _ => False

def DocumentFault.IsCovered : DocumentFault → Prop
  | .noTable => False
  | .table _ _ cause => cause.IsCovered

open TableFault

theorem exists_of_isCovered_ofSheet {fault : SheetFault} (h : (ofSheet fault).IsCovered) :
    ∃ cell region, fault = .coveredCell cell region := by
  cases fault with
  | coveredCell cell region => exact ⟨cell, region, rfl⟩
  | _ => cases h

theorem Grammar.not_isCovered_of_check {strict : Bool} {name value : String}
    {fault : AttributeFault} (h : Grammar.check strict name value = .error fault) :
    ¬(TableFault.mark fault).IsCovered := by
  intro hcovered
  rw [Grammar.check] at h
  split at h
  · split at h
    · cases h
      exact hcovered
    · split at h
      · cases h
      · cases h
        exact hcovered
  · cases h

theorem Element.not_isCovered_of_check {e : Element} {strict : Bool} {fault : TableFault}
    (h : e.check strict = .error fault) : ¬fault.IsCovered := by
  obtain ⟨name, value, cause, -, -, hcheck, rfl⟩ := Element.check_eq_error h
  exact Grammar.not_isCovered_of_check hcheck

theorem not_isCovered_of_liftStyle {α : Type} {x : Except UnknownStyle α} {fault : TableFault}
    (h : liftStyle x = .error fault) : ¬fault.IsCovered := by
  obtain ⟨style, -, rfl⟩ := mapError_eq_error_iff.mp h
  exact id

namespace Merge

/-- An anchor of 32 bits is the first corner of its region. -/
theorem anchor_le_of_contains {m : Merge} {a : Address} (hrow : m.anchor.row ≤ lastIndex)
    (hcolumn : m.anchor.column ≤ lastIndex) (h : m.range.contains a = true) :
    m.anchor.row ≤ a.row ∧ m.anchor.column ≤ a.column := by
  have hend : ∀ first span : Nat, first ≤ lastIndex →
      first ≤ (endOf? first span).getD lastIndex := by
    intro first span hfirst
    rw [endOf?]
    split
    · exact Nat.le_add_right _ _
    · exact hfirst
  obtain ⟨⟨hfirstRow, -⟩, hfirstColumn, -⟩ := Range.contains_iff.mp h
  have hlastRow := hend m.anchor.row m.rows hrow
  have hlastColumn := hend m.anchor.column m.columns hcolumn
  simp only [range, Range.ofCorners, lastRow?, lastColumn?] at hfirstRow hfirstColumn
  omega

end Merge

namespace Sheet

variable {s t : Sheet} {a : Address} {context : Context} {cell : Element} {slots : List Slot}
  {rowStyle : Option String} {fault : TableFault}

theorem not_isCovered_of_cellStyle (h : cellStyle context cell rowStyle = .error fault) :
    ¬fault.IsCovered := by
  have hnamed : ∀ {name : Option String} {fault : TableFault},
      namedStyle context name = .error fault → ¬fault.IsCovered := by
    intro name fault hname
    cases name with
    | none => cases hname
    | some name => exact not_isCovered_of_liftStyle hname
  rcases bind_eq_error_iff.mp h with hrow | ⟨row, -, h⟩
  · exact hnamed hrow
  rcases bind_eq_error_iff.mp h with hown | ⟨own, -, h⟩
  · exact hnamed hown
  · cases h

/-- No cell that a table stored earlier keeps the region of the next one out. -/
theorem Laid.not_isCovered_of_merge (h : s.Laid slots) (hbefore : ∀ t ∈ slots, t.address.Before a)
    (hwrote : s.Wrote a t) {m : Merge} (hm : (Slot.mk cell a).merge? = some m)
    {fault : SheetFault} (hfault : t.merge m = .error fault) : ¬(ofSheet fault).IsCovered := by
  intro hcovered
  obtain ⟨b, region, rfl⟩ := exists_of_isCovered_ofSheet hcovered
  obtain ⟨hcovers, hstored⟩ := covers_of_merge_eq_coveredCell hfault
  have hanchor : m.anchor = a := Slot.anchor_eq hm
  obtain ⟨hne, hcontains⟩ := Merge.covers_iff.mp hcovers
  rw [hanchor] at hne
  obtain ⟨-, hrow, -, hcolumn⟩ := hwrote.writable.1
  have hle : a.row ≤ b.row ∧ a.column ≤ b.column := by
    rw [← hanchor]
    refine Merge.anchor_le_of_contains ?_ ?_ hcontains
    · exact (hanchor ▸ hrow).trans (by decide)
    · exact (hanchor ▸ hcolumn).trans (by decide)
  rw [hwrote.frame b hne, h.stored] at hstored
  obtain ⟨slot, hslot, rfl⟩ := List.mem_map.mp hstored
  have hlt := hbefore slot hslot
  simp only [Address.Before] at hlt
  omega

theorem Laid.not_isCovered_of_cellFault (h : s.Laid slots)
    (hbefore : ∀ t ∈ slots, t.address.Before a) (hfree : s.coveringMerge? a = none)
    (hfault : CellFault context s cell a rowStyle fault) : ¬fault.IsCovered := by
  cases hfault with
  | check hcheck => exact Element.not_isCovered_of_check hcheck
  | image => exact id
  | style hstyle => exact not_isCovered_of_cellStyle hstyle
  | place hplace =>
      intro hcovered
      obtain ⟨b, region, rfl⟩ := exists_of_isCovered_ofSheet hcovered
      obtain ⟨-, -, m, hm, -⟩ := checkWritable_eq_coveredCell_iff.mp hplace
      rw [hfree] at hm
      cases hm
  | region hwrote hm hmerge => exact h.not_isCovered_of_merge hbefore hwrote hm hmerge

theorem Laid.not_isCovered_of_placeCells (hpolicy : context.options.policy = .skipCovered)
    (h : s.Laid slots) {row column : Nat} {cells : List Element}
    (hbefore : ∀ t ∈ slots, t.address.Before ⟨row, column⟩)
    (hfault : s.placeCells context row column rowStyle cells = .error fault) :
    ¬fault.IsCovered := by
  induction cells generalizing s column slots with
  | nil => cases hfault
  | cons cell cells ih =>
      rw [placeCells_cons, hpolicy, bind_eq_error_iff] at hfault
      have hleast := s.firstUncovered_isLeast row column
      change IsLeast _ (columnFor .skipCovered s row column) at hleast
      generalize columnFor .skipCovered s row column = k at hfault hleast
      have hbefore' : ∀ t ∈ slots, t.address.Before ⟨row, k⟩ :=
        fun t ht => (hbefore t ht).of_column_le hleast.1.1
      rcases hfault with hcell | ⟨t, hcell, hrest⟩
      · exact h.not_isCovered_of_cellFault hbefore' hleast.1.2 (placeCell_eq_error hcell)
      · split at hrest
        · exact ih (h.placeCell hbefore' hcell) (before_of_mem_append hbefore') hrest
        · cases hrest
          exact id

theorem not_isCovered_of_setRowHeight {row : Nat} {height : Binary64} {fault : SheetFault}
    (h : s.setRowHeight row height = .error fault) : ¬(ofSheet fault).IsCovered := by
  rw [setRowHeight, checkRow] at h
  split at h
  · cases h
  · cases h
    exact id

theorem not_isCovered_of_editColumn {column : Nat} {f : Column → Column} {fault : SheetFault}
    (h : s.editColumn column f = .error fault) : ¬(ofSheet fault).IsCovered := by
  rw [editColumn, checkColumn] at h
  split at h
  · cases h
  · cases h
    exact id

theorem Laid.not_isCovered_of_placeRow (hpolicy : context.options.policy = .skipCovered)
    (h : s.Laid slots) {row : Nat} {e : Element} (hbefore : ∀ t ∈ slots, t.address.row < row)
    (hfault : s.placeRow context row e = .error fault) : ¬fault.IsCovered := by
  rw [Sheet.placeRow, bind_eq_error_iff] at hfault
  rcases hfault with hcheck | ⟨_, -, hfault⟩
  · exact Element.not_isCovered_of_check hcheck
  rcases bind_eq_error_iff.mp hfault with hheight | ⟨t, hheight, hcells⟩
  · obtain ⟨height, cause, -, hset, rfl⟩ := editIf_eq_error_iff.mp hheight
    exact not_isCovered_of_setRowHeight hset
  · have hlaid : t.Laid slots := by
      rcases editIf_eq_ok_iff.mp hheight with ⟨-, rfl⟩ | ⟨height, -, hset⟩
      · exact h
      · exact h.setRowHeight hset
    exact hlaid.not_isCovered_of_placeCells hpolicy (fun t ht => .inl (hbefore t ht)) hcells

theorem Laid.not_isCovered_of_placeRows (hpolicy : context.options.policy = .skipCovered)
    (h : s.Laid slots) {row : Nat} {rows : List Element}
    (hbefore : ∀ t ∈ slots, t.address.row < row)
    (hfault : s.placeRows context row rows = .error fault) : ¬fault.IsCovered := by
  induction rows generalizing s row slots with
  | nil => cases hfault
  | cons e rows ih =>
      rcases bind_eq_error_iff.mp hfault with hrow | ⟨t, hrow, hrest⟩
      · exact h.not_isCovered_of_placeRow hpolicy hbefore hrow
      · obtain ⟨later, -, hlater, hsame⟩ := h.placeRow hbefore hrow
        exact ih hlater (row_lt_of_mem_append hbefore hsame) hrest

namespace Bare

/-- While no cell is stored the styling of a column restyles none. -/
theorem not_isCovered_of_styleWholeColumn (h : s.Bare) {column : Nat} {style : Style}
    {fault : SheetFault} (hfault : (s.styleWholeColumn column style).toExcept = .error fault) :
    ¬(ofSheet fault).IsCovered := by
  rw [h.styleWholeColumn_eq, styleColumn_eq, toExcept_ofExcept] at hfault
  exact not_isCovered_of_editColumn hfault

theorem not_isCovered_of_withColumn (h : s.Bare) {column : Nat} {e : Element}
    (hfault : s.withColumn context column e = .error fault) : ¬fault.IsCovered := by
  rw [withColumn_eq, bind_eq_error_iff] at hfault
  rcases hfault with hcheck | ⟨_, -, hfault⟩
  · exact Element.not_isCovered_of_check hcheck
  rcases bind_eq_error_iff.mp hfault with hwidth | ⟨t₁, hwidth, hfault⟩
  · obtain ⟨width, cause, -, hedit, rfl⟩ := editIf_eq_error_iff.mp hwidth
    exact not_isCovered_of_editColumn hedit
  rcases bind_eq_error_iff.mp hfault with hhidden | ⟨t₂, hhidden, hfault⟩
  · obtain ⟨hidden, cause, -, hedit, rfl⟩ := editIf_eq_error_iff.mp hhidden
    exact not_isCovered_of_editColumn hedit
  have h₂ : t₂.Bare := (h.editColumnIf hwidth).editColumnIf hhidden
  split at hfault
  · rcases bind_eq_error_iff.mp hfault with hname | ⟨style, -, hstyle⟩
    · exact not_isCovered_of_liftStyle hname
    · obtain ⟨cause, hcause, rfl⟩ := liftSheet_eq_error_iff.mp hstyle
      exact h₂.not_isCovered_of_styleWholeColumn hcause
  · cases hfault

theorem not_isCovered_of_withColumns (h : s.Bare) {column : Nat} {columns : List Element}
    (hfault : s.withColumns context column columns = .error fault) : ¬fault.IsCovered := by
  induction columns generalizing s column with
  | nil => cases hfault
  | cons e rest ih =>
      rcases bind_eq_error_iff.mp hfault with hcolumn | ⟨t, hcolumn, hrest⟩
      · exact h.not_isCovered_of_withColumn hcolumn
      · exact ih (h.withColumn hcolumn) hrest

end Bare

theorem not_isCovered_of_ofTable (hpolicy : context.options.policy = .skipCovered)
    {table : Element} {taken : List String}
    (hfault : Sheet.ofTable context table taken = .error fault) : ¬fault.IsCovered := by
  rw [ofTable_eq, bind_eq_error_iff] at hfault
  rcases hfault with hcheck | ⟨_, -, hfault⟩
  · exact Element.not_isCovered_of_check hcheck
  have hbare := bare_start context.options table taken
  rcases bind_eq_error_iff.mp hfault with hcolumns | ⟨t, hcolumns, hfault⟩
  · exact hbare.not_isCovered_of_withColumns hcolumns
  have ht : t.Bare := hbare.withColumns hcolumns
  rcases bind_eq_error_iff.mp hfault with hrows | ⟨u, -, hfault⟩
  · exact ht.laid.not_isCovered_of_placeRows hpolicy (by simp) hrows
  · cases hfault

end Sheet

namespace Workbook

variable {context : Context} {fault : DocumentFault}

/-- A document is refused for one of its tables. -/
theorem addTables_eq_error {w : Workbook} {index : Nat} {tables : List Element}
    (h : addTables context w index tables = .error fault) :
    ∃ i, ∃ table ∈ tables, ∃ taken cause,
      Sheet.ofTable context table taken = .error cause ∧
        fault = .table i table.sheetName cause := by
  induction tables generalizing w index with
  | nil => cases h
  | cons table rest ih =>
      rw [addTables] at h
      split at h
      · obtain ⟨i, other, hmem, hcause⟩ := ih h
        exact ⟨i, other, List.mem_cons_of_mem table hmem, hcause⟩
      · next cause hcause =>
          cases h
          exact ⟨index, table, List.mem_cons_self, w.names, cause, hcause, rfl⟩

theorem ofNodes_eq_error {nodes : List Node} (h : ofNodes context nodes = .error fault) :
    fault = .noTable ∨ ∃ i, ∃ table ∈ Node.findAll Element.isSheetTable nodes, ∃ taken cause,
      Sheet.ofTable context table taken = .error cause ∧
        fault = .table i table.sheetName cause := by
  rw [ofNodes] at h
  split at h
  · cases h
    exact .inl rfl
  · exact .inr (addTables_eq_error h)

/-- What a document is refused for, if it is. -/
def refusal? (context : Context) (nodes : List Node) : Option DocumentFault :=
  match ofNodes context nodes with
  | .ok _ => none
  | .error fault => some fault

theorem refusal?_eq_some_iff {nodes : List Node} :
    refusal? context nodes = some fault ↔ ofNodes context nodes = .error fault := by
  rw [refusal?]
  cases ofNodes context nodes <;> simp

/-- Where cells go to the next free column no document is refused for a cell in
what a region covers, be it for writing the cell or for laying a region over
it. -/
theorem ofNodes_not_isCovered (hpolicy : context.options.policy = .skipCovered)
    {nodes : List Node} (h : ofNodes context nodes = .error fault) : ¬fault.IsCovered := by
  rcases ofNodes_eq_error h with rfl | ⟨i, table, -, taken, cause, hcause, rfl⟩
  · exact id
  · exact Sheet.not_isCovered_of_ofTable hpolicy hcause

/-- A cell of two columns that runs into a region of the row above is refused
for the overlap. -/
theorem ofNodes_not_isCovered_overlap :
    let context : Context := ⟨∅, {}, {}⟩
    let nodes : List Node := [.element ⟨"table", [(Mark.sheet.name, "Data")], [
      .element ⟨"tr", [], [.element ⟨"td", [], []⟩,
        .element ⟨"td", [(Mark.rowSpan.name, "2")], [.text "a"]⟩]⟩,
      .element ⟨"tr", [], [.element ⟨"td", [(Mark.columnSpan.name, "2")], [.text "b"]⟩]⟩]⟩]
    let overlap : TableFault :=
      .mark (.mergeConflict (.ofCorners ⟨2, 1⟩ ⟨2, 2⟩) (.ofCorners ⟨1, 2⟩ ⟨2, 2⟩))
    context.options.policy = .skipCovered ∧
      ofNodes context nodes = .error (.table 0 "Data" overlap) ∧
        ¬(DocumentFault.table 0 "Data" overlap).IsCovered := by
  intro context nodes overlap
  have hfault : ofNodes context nodes = .error (.table 0 "Data" overlap) :=
    refusal?_eq_some_iff.mp (by decide +kernel)
  exact ⟨rfl, hfault, ofNodes_not_isCovered rfl hfault⟩

end Workbook

end TableBook
