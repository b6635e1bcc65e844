import TableBook.Proofs.Stages

namespace TableBook

open TableFault

/-- Two contexts that look the same things up; what they check, and where they
let cells go, may differ. -/
structure Context.SameSources (c d : Context) : Prop where
  catalogue : c.catalogue = d.catalogue
  disk : c.disk = d.disk
  imageFolder : c.options.imageFolder = d.options.imageFolder
  locale : c.options.locale = d.options.locale

namespace Sheet

variable {s t u : Sheet} {a b : Address} {context : Context} {cell : Element}

theorem writePayload_congr {c d : Context} (h : c.SameSources d) (s : Sheet) (cell : Element)
    (a : Address) : s.writePayload c cell a = s.writePayload d cell a := by
  have hscalar : cell.scalar c.options = cell.scalar d.options := by
    rw [Element.scalar, Element.scalar, h.locale]
  simp only [writePayload, hscalar, h.disk, h.imageFolder]

theorem cellStyle_congr {c d : Context} (h : c.SameSources d) (cell : Element)
    (rowStyle : Option String) : cellStyle c cell rowStyle = cellStyle d cell rowStyle := by
  simp only [cellStyle, namedStyle, h.catalogue]

/-- `t` is `s` with something written into the cell at `a`. -/
structure Wrote (s : Sheet) (a : Address) (t : Sheet) : Prop where
  writable : s.Writable a
  stored : (t.cell? a).isSome = true
  frame : ∀ b, b ≠ a → t.cell? b = s.cell? b
  merges : t.merges = s.merges

theorem wrote_changeCell (h : s.Writable a) (f : Cell → Cell) : s.Wrote a (s.changeCell a f) where
  writable := h
  stored := by rw [cell?_changeCell, if_pos rfl, Option.isSome_some]
  frame := by
    intro b hba
    rw [cell?_changeCell, if_neg hba]
  merges := rfl

theorem wrote_editCell {f : Cell → Cell} (h : s.editCell a f = .ok t) : s.Wrote a t := by
  obtain ⟨hwritable, rfl⟩ := editCell_eq_ok_iff.mp h
  exact wrote_changeCell hwritable f

theorem wrote_styleCell {style : Style} (h : s.styleCell a style = .ok t) : s.Wrote a t := by
  obtain ⟨hwritable, rfl⟩ := styleCell_eq_ok_iff.mp h
  obtain ⟨hwritable, hstored, hframe, hmerges⟩ :=
    wrote_changeCell (s := s.withPool (s.cellMerge a style).2) hwritable
      fun c => { c with style := (s.cellMerge a style).1 }
  exact ⟨hwritable, hstored, hframe, hmerges⟩

theorem Wrote.trans (h : s.Wrote a t) (h' : t.Wrote a u) : s.Wrote a u where
  writable := h.writable
  stored := h'.stored
  frame := by
    intro b hba
    rw [h'.frame b hba, h.frame b hba]
  merges := by rw [h'.merges, h.merges]

theorem wrote_writePayload (h : s.writePayload context cell a = .ok t) : s.Wrote a t := by
  simp only [writePayload] at h
  split at h
  · exact wrote_editCell (liftSheet_eq_ok_iff.mp h)
  · split at h
    · obtain ⟨image, -, h⟩ := bind_eq_ok_iff.mp h
      have hwrote := wrote_editCell (liftSheet_eq_ok_iff.mp h)
      -- The image joins the drawings first, and these are no part of the frame.
      exact ⟨hwrote.writable, hwrote.stored, hwrote.frame, hwrote.merges⟩
    · split at h
      · exact wrote_editCell (liftSheet_eq_ok_iff.mp h)
      · exact wrote_editCell (liftSheet_eq_ok_iff.mp h)

theorem Wrote.styleIf {style : Style} (h : s.Wrote a t) (hok : t.styleIf a style = .ok u) :
    s.Wrote a u :=
  keeps_styleIf h (fun hstyled => h.trans (wrote_styleCell hstyled)) hok

theorem Wrote.attach (h : s.Wrote a t) (hok : t.attach cell a = .ok u) : s.Wrote a u :=
  keeps_attach h (fun _ h hedit => h.trans (wrote_editCell hedit)) hok

theorem placeCell_eq_ok {rowStyle : Option String}
    (h : s.placeCell context cell a rowStyle = .ok u) :
    ∃ t, s.Wrote a t ∧ t.editIf (Slot.mk cell a).merge? (fun s m => s.merge m) = .ok u := by
  obtain ⟨t₁, style, t₂, t₃, hpayload, -, hstyle, hattach, hmerge⟩ := stages_of_placeCell h
  have hwrote : s.Wrote a t₁ := wrote_writePayload hpayload
  exact ⟨t₃, (hwrote.styleIf hstyle).attach hattach, hmerge⟩

/-- What a cell that was placed leaves: one cell written, and the region of its
spans at the end of the others. -/
theorem placeCell_spec {rowStyle : Option String}
    (h : s.placeCell context cell a rowStyle = .ok u) :
    ∃ t, s.Wrote a t ∧ (∀ m, (Slot.mk cell a).merge? = some m → t.Mergeable m) ∧
      u.cell? = t.cell? ∧ u.merges = s.merges ++ (Slot.mk cell a).merge?.toList := by
  obtain ⟨t, hwrote, hmerge⟩ := placeCell_eq_ok h
  refine ⟨t, hwrote, ?_⟩
  rcases editIf_eq_ok_iff.mp hmerge with ⟨hnone, rfl⟩ | ⟨m, hm, hok⟩
  · rw [hnone, hwrote.merges, Option.toList_none, List.append_nil]
    refine ⟨?_, rfl, rfl⟩
    intro m hm
    cases hm
  · obtain ⟨hmergeable, rfl⟩ := merge_eq_ok_iff.mp hok
    rw [hm, ← hwrote.merges]
    refine ⟨?_, rfl, rfl⟩
    intro m' hm'
    cases hm'
    exact hmergeable

end Sheet

end TableBook
