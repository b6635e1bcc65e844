import TableBook.Proofs.CellWrite
import TableBook.Proofs.DirectRefinement
import TableBook.Proofs.StyleMerge

namespace TableBook

namespace Sheet

variable {s t u : Sheet} {a : Address} {context : Context} {cell : Element}

/-- Every place shows in `t` what it shows in `s`. -/
structure SameLook (s t : Sheet) : Prop where
  placesKnown : t.PlacesKnown
  styleAt : ∀ a, t.styleAt a = s.styleAt a

namespace SameLook

theorem refl (h : s.PlacesKnown) : s.SameLook s := ⟨h, fun _ => rfl⟩

theorem trans (h : s.SameLook t) (h' : t.SameLook u) : s.SameLook u :=
  ⟨h'.placesKnown, fun a => (h'.styleAt a).trans (h.styleAt a)⟩

theorem of_same (h : s.PlacesKnown) (hgrid : t.grid = s.grid) (hpool : t.pool = s.pool)
    (hcolumns : t.columns = s.columns) : s.SameLook t := by
  refine ⟨h.of_same hgrid hpool hcolumns, ?_⟩
  intro a
  simp only [Sheet.styleAt, stylePlace, cell?, columnStyle, hgrid, hpool, hcolumns]

theorem setRowHeight (h : s.PlacesKnown) {row : Nat} {height : Binary64}
    (hok : s.setRowHeight row height = .ok t) : s.SameLook t := by
  obtain ⟨-, rfl⟩ := setRowHeight_eq_ok_iff.mp hok
  exact of_same h rfl rfl rfl

theorem merge (h : s.PlacesKnown) {m : Merge} (hok : s.merge m = .ok t) : s.SameLook t := by
  obtain ⟨-, rfl⟩ := merge_eq_ok_iff.mp hok
  exact of_same h rfl rfl rfl

end SameLook

/-- An operation that succeeds gives what the direct one gives. -/
theorem direct_of_refines {check : Except SheetFault Unit} {d : DirectSheet}
    (h : (Attempt.ofExcept s (.ok t)).Refines
      (.ofExcept s.direct (check >>= fun _ => .ok d))) : t.PlacesKnown ∧ t.direct = d := by
  obtain ⟨hplaces, hsheet, hfault⟩ := h
  cases check with
  | error fault => cases hfault
  | ok => exact ⟨hplaces, hsheet⟩

theorem sameLook_editColumn (h : s.PlacesKnown) {column : Nat} {f : Column → Column}
    (hf : (Operation.column column f).StyleBlind) (hok : s.editColumn column f = .ok t) :
    s.SameLook t := by
  have hrefines := editColumn_refines h hf
  rw [hok] at hrefines
  obtain ⟨hplaces, hdirect⟩ := direct_of_refines hrefines
  refine ⟨hplaces, ?_⟩
  intro a
  have hstyle (k : Nat) : t.direct.columnStyle k = s.direct.columnStyle k := by
    rw [hdirect, DirectSheet.columnStyle, DirectSheet.columnStyle]
    change ((if k = column then _ else s.direct.columns k : Option DirectColumn).bind _).getD _ = _
    split
    · next hk =>
        rw [hk]
        cases s.direct.columns column <;> rfl
    · rfl
  rw [← direct_styleAt hplaces, ← direct_styleAt h, DirectSheet.styleAt, DirectSheet.styleAt,
    hstyle, hdirect]
  rfl

/-- `t` is `s` with a style laid on one place. -/
structure Restyled (s : Sheet) (a : Address) (style : Style) (t : Sheet) : Prop where
  placesKnown : t.PlacesKnown
  frame : ∀ b, b ≠ a → t.styleAt b = s.styleAt b
  styleAt : t.styleAt a = (s.styleAt a).merge style

theorem SameLook.restyled (h : s.SameLook t) (a : Address) : s.Restyled a {} t where
  placesKnown := h.placesKnown
  frame b _ := h.styleAt b
  styleAt := by rw [h.styleAt, Style.merge_empty]

theorem Restyled.trans {style style' : Style} (h : s.Restyled a style t)
    (h' : t.Restyled a style' u) : s.Restyled a (style.merge style') u where
  placesKnown := h'.placesKnown
  frame b hb := (h'.frame b hb).trans (h.frame b hb)
  styleAt := by rw [h'.styleAt, h.styleAt, Style.merge_assoc]

theorem Restyled.same_trans {style : Style} (h : s.Restyled a {} t)
    (h' : t.Restyled a style u) : s.Restyled a style u := by
  have htrans := h.trans h'
  rw [Style.empty_merge] at htrans
  exact htrans

theorem Restyled.trans_same {style : Style} (h : s.Restyled a style t)
    (h' : t.Restyled a {} u) : s.Restyled a style u := by
  have htrans := h.trans h'
  rw [Style.merge_empty] at htrans
  exact htrans

theorem restyled_of_setCell (h : s.PlacesKnown) {g : DirectCell → DirectCell} {style : Style}
    (hg : ∀ c, (g c).style = c.style.merge style) (hplaces : t.PlacesKnown)
    (hdirect : t.direct = s.direct.setCell a g) : s.Restyled a style t := by
  refine ⟨hplaces, ?_, ?_⟩
  · intro b hb
    have hcell : t.direct.cells b = s.direct.cells b := by
      rw [hdirect]
      exact if_neg hb
    rw [← direct_styleAt hplaces, ← direct_styleAt h, DirectSheet.styleAt, DirectSheet.styleAt,
      hcell, hdirect]
    rfl
  · have hcell : t.direct.cells a =
        some (g ((s.direct.cells a).getD { style := s.direct.columnStyle a.column })) := by
      rw [hdirect]
      exact if_pos rfl
    rw [← direct_styleAt hplaces, ← direct_styleAt h, DirectSheet.styleAt, DirectSheet.styleAt,
      hcell]
    change (g _).style = _
    rw [hg]
    cases s.direct.cells a <;> rfl

theorem restyled_editCell (h : s.PlacesKnown) {f : Cell → Cell}
    (hf : (Operation.cell a f).StyleBlind) (hok : s.editCell a f = .ok t) :
    s.Restyled a {} t := by
  have hrefines := editCell_refines h hf
  rw [hok] at hrefines
  obtain ⟨hplaces, hdirect⟩ := direct_of_refines hrefines
  refine restyled_of_setCell h ?_ hplaces hdirect
  intro c
  exact (Style.merge_empty c.style).symm

theorem restyled_styleCell (h : s.PlacesKnown) {style : Style}
    (hok : s.styleCell a style = .ok t) : s.Restyled a style t := by
  have hrefines := styleCell_refines h a style
  rw [hok] at hrefines
  obtain ⟨hplaces, hdirect⟩ := direct_of_refines hrefines
  exact restyled_of_setCell h (fun _ => rfl) hplaces hdirect

theorem restyled_setValue (h : s.PlacesKnown) {v : Value} (hok : s.setValue a v = .ok t) :
    s.Restyled a {} t :=
  restyled_editCell h (fun _ _ => rfl) hok

theorem restyled_writePayload (h : s.PlacesKnown) (hok : s.writePayload context cell a = .ok t) :
    s.Restyled a {} t := by
  simp only [writePayload] at hok
  split at hok
  · exact restyled_editCell h (fun _ _ => rfl) (liftSheet_eq_ok_iff.mp hok)
  · split at hok
    · obtain ⟨image, -, hok⟩ := bind_eq_ok_iff.mp hok
      have hvalue := liftSheet_eq_ok_iff.mp hok
      generalize hdrawn : s.addDrawing _ = drawn at hvalue
      have hdrawing : s.SameLook drawn := by
        rw [← hdrawn]
        exact .of_same h rfl rfl rfl
      exact (hdrawing.restyled a).same_trans (restyled_setValue hdrawing.placesKnown hvalue)
    · split at hok
      · exact restyled_editCell h (fun _ _ => rfl) (liftSheet_eq_ok_iff.mp hok)
      · exact restyled_setValue h (liftSheet_eq_ok_iff.mp hok)

/-- Nothing to lay on a place is nothing to do there. -/
theorem restyled_styleIf (h : s.PlacesKnown) {style : Style} (hok : s.styleIf a style = .ok t) :
    s.Restyled a style t := by
  rw [styleIf] at hok
  split at hok
  · next hempty =>
      obtain rfl : style = {} := beq_iff_eq.mp hempty
      cases hok
      exact (SameLook.refl h).restyled a
  · exact restyled_styleCell h (liftSheet_eq_ok_iff.mp hok)

theorem Attaches.styleBlind {f : Cell → Cell} (h : Attaches f) :
    (Operation.cell a f).StyleBlind := by
  cases h <;> exact fun _ _ => rfl

theorem restyled_attach (h : s.PlacesKnown) (hok : s.attach cell a = .ok u) :
    s.Restyled a {} u :=
  keeps_attach ((SameLook.refl h).restyled a)
    (fun hf h hedit => h.same_trans (restyled_editCell h.placesKnown hf.styleBlind hedit)) hok

theorem restyled_placeCell (h : s.PlacesKnown) {rowStyle : Option String}
    (hok : s.placeCell context cell a rowStyle = .ok u) :
    ∃ style, cellStyle context cell rowStyle = .ok style ∧ s.Restyled a style u := by
  obtain ⟨t₁, style, t₂, t₃, hpayload, hstyle, hlaid, hattach, hmerge⟩ := stages_of_placeCell hok
  have h₁ : s.Restyled a {} t₁ := restyled_writePayload h hpayload
  have h₂ : t₁.Restyled a style t₂ := restyled_styleIf h₁.placesKnown hlaid
  have h₃ : t₂.Restyled a {} t₃ := restyled_attach h₂.placesKnown hattach
  have h₄ : t₃.SameLook u :=
    keeps_editIf (.refl h₃.placesKnown) (fun _ => .merge h₃.placesKnown) hmerge
  exact ⟨style, hstyle, ((h₁.same_trans h₂).trans_same h₃).trans_same (h₄.restyled a)⟩

end Sheet

end TableBook
