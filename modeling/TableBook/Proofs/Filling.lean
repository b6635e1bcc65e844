import TableBook.Proofs.Operation
import TableBook.Proofs.TableSheet

namespace TableBook

open TableFault

namespace Sheet

variable {s t u : Sheet} {context : Context}

/-- A change that leaves the freeze pane, the filter and the page alone, and anchors
new images and regions inside the bounds. -/
structure Fill (s t : Sheet) : Prop where
  change : s.Change t
  freeze : t.freeze = s.freeze
  autoFilter : t.autoFilter = s.autoFilter
  page : t.page = s.page
  drawings : ∀ d ∈ t.drawings, d ∈ s.drawings ∨ d.anchor.InBounds
  merges : ∀ m ∈ t.merges, m ∈ s.merges ∨ m.anchor.InBounds

abbrev Fills : Sheet → Sheet → Prop := Relation.ReflTransGen Fill

theorem Fills.changes (h : s.Fills t) : s.Changes t :=
  Relation.ReflTransGen.mono (fun _ _ => Fill.change) _ _ h

section Edits

variable {a : Address} {column : Nat} {style : Style}

theorem fills_changeCell (hwritable : s.Writable a) (f : Cell → Cell) :
    s.Fills (s.changeCell a f) :=
  .single ⟨.cell f hwritable, rfl, rfl, rfl, fun _ => .inl, fun _ => .inl⟩

theorem fills_editCell {f : Cell → Cell} (h : s.editCell a f = .ok t) : s.Fills t := by
  obtain ⟨hwritable, rfl⟩ := editCell_eq_ok_iff.mp h
  exact fills_changeCell hwritable f

theorem fills_editColumn {f : Column → Column} (h : s.editColumn column f = .ok t) :
    s.Fills t := by
  obtain ⟨hcolumn, rfl⟩ := editColumn_eq_ok_iff.mp h
  exact .single ⟨.column f hcolumn, rfl, rfl, rfl, fun _ => .inl, fun _ => .inl⟩

theorem fills_setRowHeight {row : Nat} {height : Binary64}
    (h : s.setRowHeight row height = .ok t) : s.Fills t := by
  obtain ⟨hrow, rfl⟩ := setRowHeight_eq_ok_iff.mp h
  have hchange := Change.row (s := s) (fun r => { r with height := some height }) hrow
  exact .single ⟨hchange, rfl, rfl, rfl, fun _ => .inl, fun _ => .inl⟩

theorem fills_merge {m : Merge} (hanchor : m.anchor.InBounds) (h : s.merge m = .ok t) :
    s.Fills t := by
  obtain ⟨hmergeable, rfl⟩ := merge_eq_ok_iff.mp h
  refine .single ⟨.merge hmergeable, rfl, rfl, rfl, fun _ => .inl, ?_⟩
  intro m' hm'
  rcases List.mem_append.mp hm' with hold | hnew
  · exact .inl hold
  · rw [List.mem_singleton.mp hnew]
    exact .inr hanchor

theorem fills_addDrawing {d : Drawing} (hanchor : d.anchor.InBounds) :
    s.Fills (s.addDrawing d) := by
  refine .single ⟨.settings .., rfl, rfl, rfl, ?_, fun _ => .inl⟩
  intro d' hd'
  rcases List.mem_append.mp hd' with hold | hnew
  · exact .inl hold
  · rw [List.mem_singleton.mp hnew]
    exact .inr hanchor

theorem fills_withPool (base : Nat) (style : Style) :
    s.Fills (s.withPool (s.pool.mergeInto base style).2) :=
  .single ⟨.pool base style, rfl, rfl, rfl, fun _ => .inl, fun _ => .inl⟩

theorem fills_styleCell (h : s.styleCell a style = .ok t) : s.Fills t := by
  obtain ⟨hwritable, rfl⟩ := styleCell_eq_ok_iff.mp h
  exact (fills_withPool (s.stylePlace a) style).trans
    (fills_changeCell (s := s.withPool (s.cellMerge a style).2) hwritable _)

theorem toExcept_andThen_eq_ok_iff {attempt : Attempt} {next : Sheet → Attempt} :
    (attempt.andThen next).toExcept = .ok u ↔
      ∃ t, attempt.toExcept = .ok t ∧ (next t).toExcept = .ok u := by
  obtain ⟨t, _ | fault⟩ := attempt <;> simp [Attempt.andThen, Attempt.toExcept]

theorem fills_styleCells {positions : List Address}
    (h : (s.styleCells style positions).toExcept = .ok t) : s.Fills t := by
  induction positions generalizing s with
  | nil =>
      cases h
      exact .refl
  | cons a rest ih =>
      rw [styleCells, toExcept_andThen_eq_ok_iff] at h
      obtain ⟨u, hcell, hrest⟩ := h
      rw [toExcept_ofExcept] at hcell
      exact (fills_styleCell hcell).trans (ih hrest)

theorem fills_styleColumn (h : (s.styleColumn column style).toExcept = .ok t) : s.Fills t := by
  rw [styleColumn_eq, toExcept_ofExcept] at h
  exact (fills_withPool (s.columnStyle column) style).trans (fills_editColumn h)

theorem fills_styleWholeColumn (h : (s.styleWholeColumn column style).toExcept = .ok t) :
    s.Fills t := by
  obtain ⟨u, hcells, hcolumn⟩ := toExcept_andThen_eq_ok_iff.mp h
  exact (fills_styleCells hcells).trans (fills_styleColumn hcolumn)

end Edits

section Table

variable {cell : Element} {a : Address} {rowStyle : Option String}

theorem fills_writePayload (h : s.writePayload context cell a = .ok t) : s.Fills t := by
  have hbounds : a.InBounds := (wrote_writePayload h).writable.1
  simp only [writePayload] at h
  split at h
  · exact fills_editCell (liftSheet_eq_ok_iff.mp h)
  · split at h
    · obtain ⟨image, -, h⟩ := bind_eq_ok_iff.mp h
      exact (fills_addDrawing hbounds).trans (fills_editCell (liftSheet_eq_ok_iff.mp h))
    · split at h
      · exact fills_editCell (liftSheet_eq_ok_iff.mp h)
      · exact fills_editCell (liftSheet_eq_ok_iff.mp h)

theorem fills_attach (h : s.attach cell a = .ok u) : s.Fills u :=
  keeps_attach .refl (fun _ h hedit => h.trans (fills_editCell hedit)) h

theorem fills_placeCell (h : s.placeCell context cell a rowStyle = .ok u) : s.Fills u := by
  obtain ⟨t₁, style, t₂, t₃, hpayload, -, hstyle, hattach, hmerge⟩ := stages_of_placeCell h
  have hbounds : a.InBounds := (wrote_writePayload hpayload).writable.1
  have h₁ : s.Fills t₁ := fills_writePayload hpayload
  have h₂ : t₁.Fills t₂ := keeps_styleIf .refl fills_styleCell hstyle
  have h₃ : t₂.Fills t₃ := fills_attach hattach
  refine ((h₁.trans h₂).trans h₃).trans (keeps_editIf .refl ?_ hmerge)
  intro m t hm
  exact fills_merge (Slot.anchor_eq hm ▸ hbounds)

theorem fills_placeCells {row column : Nat} {cells : List Element}
    (h : s.placeCells context row column rowStyle cells = .ok u) : s.Fills u := by
  induction cells generalizing s column with
  | nil =>
      cases h
      exact .refl
  | cons cell cells ih =>
      obtain ⟨t, hcell, hrest⟩ := placeCells_cons_eq_ok h
      exact (fills_placeCell hcell).trans (ih hrest)

theorem fills_heightIf {row : Nat} {height : Option Binary64}
    (h : s.editIf height (fun s height => s.setRowHeight row height) = .ok t) : s.Fills t :=
  keeps_editIf .refl (fun _ => fills_setRowHeight) h

theorem fills_placeRow {row : Nat} {e : Element} (h : s.placeRow context row e = .ok u) :
    s.Fills u := by
  rw [placeRow, check_bind_eq_ok_iff] at h
  obtain ⟨t, hheight, hcells⟩ := bind_eq_ok_iff.mp h.2
  exact (fills_heightIf hheight).trans (fills_placeCells hcells)

theorem fills_placeRows {row : Nat} {rows : List Element}
    (h : s.placeRows context row rows = .ok u) : s.Fills u := by
  induction rows generalizing s row with
  | nil =>
      cases h
      exact .refl
  | cons e rows ih =>
      obtain ⟨t, hrow, hrest⟩ := bind_eq_ok_iff.mp h
      exact (fills_placeRow hrow).trans (ih hrest)

theorem fills_withColumns {column : Nat} {columns : List Element}
    (h : s.withColumns context column columns = .ok u) : s.Fills u :=
  keeps_withColumns .refl (fun h hedit => h.trans (fills_editColumn hedit))
    (fun h hstyle => h.trans (fills_styleWholeColumn hstyle)) h

theorem fills_withAutosize (s : Sheet) (table : Element) : s.Fills (s.withAutosize table) :=
  keeps_withAutosize table .refl fun h hedit => h.trans (fills_editColumn hedit)

/-- The stages that make the sheet of a table from its start, the sizing of the
columns apart and last. -/
theorem fills_of_ofTable {table : Element} {taken : List String}
    (h : Sheet.ofTable context table taken = .ok u) :
    ∃ t, (start context.options table taken).Fills t ∧ u = t.withAutosize table := by
  obtain ⟨s, t, hcolumns, -, hrows, rfl⟩ := ofTable_eq_ok h
  exact ⟨t, (fills_withColumns hcolumns).trans (fills_placeRows hrows), rfl⟩

end Table

end Sheet

end TableBook
