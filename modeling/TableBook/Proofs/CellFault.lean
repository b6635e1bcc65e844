import TableBook.Proofs.CellWrite

namespace TableBook

open TableFault

theorem liftSheet_eq_error_iff {α : Type} {x : Except SheetFault α} {fault : TableFault} :
    liftSheet x = .error fault ↔ ∃ f, x = .error f ∧ ofSheet f = fault := mapError_eq_error_iff

theorem exists_of_forM_eq_error {ε α : Type} {f : α → Except ε Unit} {xs : List α} {e : ε}
    (h : xs.forM f = .error e) : ∃ x ∈ xs, f x = .error e := by
  induction xs with
  | nil => cases h
  | cons x xs ih =>
      rcases bind_eq_error_iff.mp h with hx | ⟨_, -, hxs⟩
      · exact ⟨x, List.mem_cons_self, hx⟩
      · obtain ⟨y, hy, hfault⟩ := ih hxs
        exact ⟨y, List.mem_cons_of_mem x hy, hfault⟩

/-- The check of an element complains of one of its marks. -/
theorem Element.check_eq_error {e : Element} {strict : Bool} {fault : TableFault}
    (h : e.check strict = .error fault) :
    ∃ name value cause, (name, value) ∈ e.attributes ∧ Mark.isName name = true ∧
      Grammar.check strict name value = .error cause ∧ fault = .mark cause := by
  obtain ⟨cause, hcause, rfl⟩ := mapError_eq_error_iff.mp h
  obtain ⟨⟨name, value⟩, hmem, hcheck⟩ := exists_of_forM_eq_error hcause
  dsimp only at hcheck
  split at hcheck
  · next hname => exact ⟨name, value, cause, hmem, hname, hcheck, rfl⟩
  · cases hcheck

namespace Sheet

variable {s t u : Sheet} {a : Address} {context : Context} {cell : Element}
  {rowStyle : Option String} {fault : TableFault}

theorem editIf_eq_error_iff {α : Type} {value : Option α}
    {edit : Sheet → α → Except SheetFault Sheet} :
    s.editIf value edit = .error fault ↔
      ∃ x f, value = some x ∧ edit s x = .error f ∧ ofSheet f = fault := by
  cases value with
  | none => simp [editIf]
  | some x => simp [editIf, liftSheet_eq_error_iff]

inductive CellFault (context : Context) (s : Sheet) (cell : Element) (a : Address)
    (rowStyle : Option String) : TableFault → Prop
  | check {fault : TableFault} (h : cell.check context.options.strict = .error fault) :
      CellFault context s cell a rowStyle fault
  | image {source : String} {fault : ImageFault} (hsource : cell.mark? .image = some source)
      (h : ImageSource.resolve context.disk source context.options.imageFolder = .error fault) :
      CellFault context s cell a rowStyle (.image fault)
  | style {fault : TableFault} (h : cellStyle context cell rowStyle = .error fault) :
      CellFault context s cell a rowStyle fault
  | place {fault : SheetFault} (h : s.checkWritable a = .error fault) :
      CellFault context s cell a rowStyle (ofSheet fault)
  | region {t : Sheet} {m : Merge} {fault : SheetFault} (hwrote : s.Wrote a t)
      (hm : (Slot.mk cell a).merge? = some m) (h : t.merge m = .error fault) :
      CellFault context s cell a rowStyle (ofSheet fault)

theorem writePayload_eq_error (h : s.writePayload context cell a = .error fault) :
    CellFault context s cell a rowStyle fault := by
  have hplace : ∀ {t : Sheet} {f : Cell → Cell}, t.checkWritable a = s.checkWritable a →
      liftSheet (t.editCell a f) = .error fault → CellFault context s cell a rowStyle fault := by
    intro t f hsame hedit
    obtain ⟨fault, hfault, rfl⟩ := liftSheet_eq_error_iff.mp hedit
    rw [editCell_eq_error_iff, hsame] at hfault
    exact .place hfault
  simp only [writePayload] at h
  split at h
  · exact hplace rfl h
  · split at h
    · next source hsource =>
        rcases bind_eq_error_iff.mp h with himage | ⟨image, -, hvalue⟩
        · obtain ⟨fault, hfault, rfl⟩ := mapError_eq_error_iff.mp himage
          exact .image hsource hfault
        · exact hplace (t := s.addDrawing _) rfl hvalue
    · split at h
      · exact hplace rfl h
      · exact hplace rfl h

theorem Wrote.writable_after (h : s.Wrote a t) : t.Writable a := by
  refine ⟨h.writable.1, ?_⟩
  rw [coveringMerge?, h.merges]
  exact h.writable.2

theorem Wrote.editIf_eq_ok {α : Type} (h : s.Wrote a t) (value : Option α)
    (f : α → Cell → Cell) :
    ∃ u, t.editIf value (fun t x => t.editCell a (f x)) = .ok u ∧ s.Wrote a u := by
  cases value with
  | none => exact ⟨t, rfl, h⟩
  | some x =>
      refine ⟨t.changeCell a (f x), ?_, h.trans (wrote_changeCell h.writable_after (f x))⟩
      rw [Sheet.editIf, editCell_eq_ok_iff.mpr ⟨h.writable_after, rfl⟩]
      rfl

/-- A cell that is stored takes whatever is attached to it. -/
theorem Wrote.attach_eq_ok (h : s.Wrote a t) (cell : Element) : ∃ u, t.attach cell a = .ok u := by
  obtain ⟨t₁, hlink, h₁⟩ := h.editIf_eq_ok
    (cell.linkTarget?.map fun target => Link.mk target (cell.mark? .linkTooltip))
    fun link c => { c with link := some link }
  obtain ⟨t₂, hcomment, h₂⟩ := h₁.editIf_eq_ok cell.comment?
    fun comment c => { c with comment := some comment }
  obtain ⟨t₃, hchoices, -⟩ := h₂.editIf_eq_ok ((cell.mark? .choices).map Reader.options)
    fun options c => { c with choices := some (.ofOptions options) }
  refine ⟨t₃, ?_⟩
  exact bind_eq_ok_iff.mpr ⟨t₁, hlink, bind_eq_ok_iff.mpr ⟨t₂, hcomment, hchoices⟩⟩

theorem Wrote.styleIf_eq_ok (h : s.Wrote a t) (style : Style) :
    ∃ u, t.styleIf a style = .ok u := by
  rw [Sheet.styleIf]
  split
  · exact ⟨t, rfl⟩
  · exact ⟨t.restyleCell a style,
      liftSheet_eq_ok_iff.mpr (styleCell_eq_ok_iff.mpr ⟨h.writable_after, rfl⟩)⟩

/-- Once a cell is stored its place refuses nothing more: only an unknown style
or the region of its spans can still stop the writing. -/
theorem placeCell_eq_error (h : s.placeCell context cell a rowStyle = .error fault) :
    CellFault context s cell a rowStyle fault := by
  rw [placeCell_eq, bind_eq_error_iff] at h
  rcases h with hcheck | ⟨_, -, h⟩
  · exact .check hcheck
  rcases bind_eq_error_iff.mp h with hpayload | ⟨t₁, hpayload, h⟩
  · exact writePayload_eq_error hpayload
  have h₁ : s.Wrote a t₁ := wrote_writePayload hpayload
  rcases bind_eq_error_iff.mp h with hstyle | ⟨style, -, h⟩
  · exact .style hstyle
  obtain ⟨t₂, hrestyle⟩ := h₁.styleIf_eq_ok style
  have h₂ : s.Wrote a t₂ := h₁.styleIf hrestyle
  obtain ⟨t₃, hattach⟩ := h₂.attach_eq_ok cell
  rw [hrestyle] at h
  change t₂.attach cell a >>= _ = _ at h
  rw [hattach] at h
  obtain ⟨m, fault, hm, hmerge, rfl⟩ := editIf_eq_error_iff.mp h
  exact .region (h₂.attach hattach) hm hmerge

end Sheet

end TableBook
