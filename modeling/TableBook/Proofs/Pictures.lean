import TableBook.Proofs.Bounds
import TableBook.Proofs.Pool

namespace TableBook

def Value.picture? : Value → Option Nat
  | .image index => some index
  | _ => none

theorem Value.picture?_eq_some_iff {v : Value} {index : Nat} :
    v.picture? = some index ↔ v = .image index := by
  cases v <;> simp [picture?]

theorem Value.picture?_ofFormula (text : String) : (Value.ofFormula text).picture? = none := by
  rw [ofFormula]
  split <;> rfl

/-- No text is read as an image. -/
theorem Scalar.picture?_value (scalar : Scalar) : scalar.value.picture? = none := by
  cases scalar <;> rfl

/-- A cell of a table that shows an image; a formula comes before it. -/
def Slot.isPicture (t : Slot) : Bool :=
  (t.cell.mark? .formula).isNone && (t.cell.mark? .image).isSome

namespace Sheet

/-- The cells that show an image, row by row, with the index that each holds. -/
def pictures (s : Sheet) : List (Address × Nat) :=
  s.grid.cells.filterMap fun (a, c) => c.value.picture?.map (a, ·)

def anchors (s : Sheet) : List Address := s.drawings.map (·.anchor)

variable {s t u : Sheet} {context : Context} {slots : List Slot} {cell : Element} {a b : Address}

section Values

theorem valueAt_eq_image_iff {index : Nat} :
    s.valueAt a = .image index ↔ ∃ c, s.cell? a = some c ∧ c.value = .image index :=
  valueAt_eq_iff Value.noConfusion

theorem valueAt_changeCell (s : Sheet) (a b : Address) (f : Cell → Cell) :
    (s.changeCell a f).valueAt b = if b = a then (f (s.cellOrFresh a)).value else s.valueAt b := by
  rw [valueAt, cell?_changeCell]
  split <;> rfl

theorem value_cellOrFresh (s : Sheet) (a : Address) : (s.cellOrFresh a).value = s.valueAt a := by
  rw [cellOrFresh, valueAt]
  cases s.cell? a <;> rfl

/-- Every place holds in `t` the value it holds in `s`, and the drawings are the
same. -/
structure SameValues (s t : Sheet) : Prop where
  drawings : t.drawings = s.drawings
  valueAt : ∀ a, t.valueAt a = s.valueAt a

theorem SameValues.refl (s : Sheet) : s.SameValues s := ⟨rfl, fun _ => rfl⟩

theorem SameValues.trans (h : s.SameValues t) (h' : t.SameValues u) : s.SameValues u :=
  ⟨h'.drawings.trans h.drawings, fun a => (h'.valueAt a).trans (h.valueAt a)⟩

theorem SameValues.of_same (hgrid : t.grid = s.grid) (hdrawings : t.drawings = s.drawings) :
    s.SameValues t := by
  refine ⟨hdrawings, ?_⟩
  intro a
  rw [Sheet.valueAt, cell?, hgrid]
  rfl

theorem sameValues_changeCell {f : Cell → Cell} (hf : ∀ c, (f c).value = c.value) :
    s.SameValues (s.changeCell a f) := by
  refine ⟨rfl, ?_⟩
  intro b
  rw [valueAt_changeCell, hf, value_cellOrFresh]
  split
  · next hb => rw [hb]
  · rfl

theorem sameValues_editCell {f : Cell → Cell} (h : s.editCell a f = .ok t)
    (hf : ∀ c, (f c).value = c.value) : s.SameValues t := by
  obtain ⟨-, rfl⟩ := editCell_eq_ok_iff.mp h
  exact sameValues_changeCell hf

theorem sameValues_styleCell {style : Style} (h : s.styleCell a style = .ok t) :
    s.SameValues t := by
  obtain ⟨-, rfl⟩ := styleCell_eq_ok_iff.mp h
  have hpool : s.SameValues (s.withPool (s.cellMerge a style).2) := .of_same rfl rfl
  exact hpool.trans (sameValues_changeCell fun _ => rfl)

theorem sameValues_editColumn {column : Nat} {f : Column → Column}
    (h : s.editColumn column f = .ok t) : s.SameValues t := by
  obtain ⟨-, rfl⟩ := editColumn_eq_ok_iff.mp h
  exact .of_same rfl rfl

theorem sameValues_setRowHeight {row : Nat} {height : Binary64}
    (h : s.setRowHeight row height = .ok t) : s.SameValues t := by
  obtain ⟨-, rfl⟩ := setRowHeight_eq_ok_iff.mp h
  exact .of_same rfl rfl

theorem sameValues_merge {m : Merge} (h : s.merge m = .ok t) : s.SameValues t := by
  obtain ⟨-, rfl⟩ := merge_eq_ok_iff.mp h
  exact .of_same rfl rfl

theorem sameValues_attach (h : s.attach cell a = .ok u) : s.SameValues u :=
  keeps_attach (.refl s) (fun hf h hedit => h.trans (sameValues_editCell hedit hf.value_eq)) h

/-- Once its value is written the rest of a cell leaves all values alone. -/
theorem sameValues_of_placeCell {rowStyle : Option String}
    (h : s.placeCell context cell a rowStyle = .ok u) :
    ∃ t, s.writePayload context cell a = .ok t ∧ t.SameValues u := by
  obtain ⟨t₁, style, t₂, t₃, hpayload, -, hstyle, hattach, hmerge⟩ := stages_of_placeCell h
  refine ⟨t₁, hpayload, ?_⟩
  have h₂ : t₁.SameValues t₂ := keeps_styleIf (.refl t₁) sameValues_styleCell hstyle
  have h₃ : t₂.SameValues t₃ := sameValues_attach hattach
  exact (h₂.trans h₃).trans (keeps_editIf (.refl t₃) (fun _ => sameValues_merge) hmerge)

theorem sameValues_withAutosize (s : Sheet) (table : Element) :
    s.SameValues (s.withAutosize table) :=
  keeps_withAutosize table (.refl s) fun h hedit => h.trans (sameValues_editColumn hedit)

end Values

section Columns

theorem Bare.valueAt (h : s.Bare) (a : Address) : s.valueAt a = .null := by
  rw [Sheet.valueAt, h.cell?_eq_none]
  rfl

theorem Bare.drawings_withColumns (h : s.Bare) {column : Nat} {columns : List Element}
    (hok : s.withColumns context column columns = .ok t) : t.drawings = s.drawings := by
  refine (keeps_withColumns (P := fun t => t.Bare ∧ t.drawings = s.drawings) ⟨h, rfl⟩ ?_ ?_ hok).2
  · rintro t u column f ⟨ht, hsame⟩ hedit
    exact ⟨ht.editColumn hedit, (sameValues_editColumn hedit).drawings.trans hsame⟩
  · rintro t u column style ⟨ht, hsame⟩ hstyle
    refine ⟨ht.styleWholeColumn hstyle, ?_⟩
    rw [ht.styleWholeColumn_eq, styleColumn_eq, toExcept_ofExcept] at hstyle
    exact (sameValues_editColumn hstyle).drawings.trans hsame

end Columns

theorem Laid.eq_of_address {x y : Slot} (h : s.Laid slots) (hx : x ∈ slots) (hy : y ∈ slots)
    (haddress : x.address = y.address) : x = y := by
  refine List.inj_on_of_nodup_map ?_ hx hy haddress
  rw [List.nodup_iff_pairwise_ne, List.pairwise_map]
  exact h.ordered.imp Address.Before.ne

/-- Of the cells so far, those that show an image have one drawing each, in their
order, and each holds the index of its own. -/
structure Pictured (s : Sheet) (slots : List Slot) : Prop where
  anchors : s.anchors = (slots.filter Slot.isPicture).map Slot.address
  shows : ∀ a index, s.valueAt a = .image index ↔ s.anchors[index]? = some a

namespace Pictured

theorem of_sameValues (h : s.Pictured slots) (hsame : s.SameValues t) : t.Pictured slots := by
  have hanchors : t.anchors = s.anchors := by rw [Sheet.anchors, hsame.drawings, Sheet.anchors]
  constructor
  · rw [hanchors, h.anchors]
  · intro a index
    rw [hsame.valueAt, hanchors, h.shows]

theorem address_of_anchor (h : s.Pictured slots) (ha : a ∈ s.anchors) :
    ∃ slot ∈ slots, slot.isPicture = true ∧ slot.address = a := by
  rw [h.anchors] at ha
  obtain ⟨slot, hslot, rfl⟩ := List.mem_map.mp ha
  obtain ⟨hmem, hpicture⟩ := List.mem_filter.mp hslot
  exact ⟨slot, hmem, hpicture, rfl⟩

theorem notMem_anchors (h : s.Pictured slots) (hfresh : ∀ t ∈ slots, t.address ≠ a) :
    a ∉ s.anchors := by
  intro ha
  obtain ⟨slot, hslot, -, heq⟩ := h.address_of_anchor ha
  exact hfresh slot hslot heq

/-- A cell that shows no image. -/
theorem changeCell (h : s.Pictured slots) (hfresh : ∀ t ∈ slots, t.address ≠ a)
    {f : Cell → Cell} (hf : ∀ c, (f c).value.picture? = none)
    (hslot : (Slot.mk cell a).isPicture = false) :
    (s.changeCell a f).Pictured (slots ++ [⟨cell, a⟩]) := by
  have hanchors : (s.changeCell a f).anchors = s.anchors := rfl
  constructor
  · rw [hanchors, h.anchors, List.filter_append]
    simp [hslot]
  · intro b index
    rw [valueAt_changeCell, hanchors]
    split
    · next hb =>
        refine iff_of_false ?_ ?_
        · intro himage
          have hnone := hf (s.cellOrFresh a)
          rw [himage] at hnone
          cases hnone
        · intro hanchor
          exact h.notMem_anchors hfresh (hb ▸ List.mem_of_getElem? hanchor)
    · exact h.shows b index

theorem setValue (h : s.Pictured slots) (hfresh : ∀ t ∈ slots, t.address ≠ a) {v : Value}
    (hok : s.setValue a v = .ok t) (hv : v.picture? = none)
    (hslot : (Slot.mk cell a).isPicture = false) : t.Pictured (slots ++ [⟨cell, a⟩]) := by
  obtain ⟨-, rfl⟩ := editCell_eq_ok_iff.mp hok
  exact h.changeCell hfresh (fun _ => hv) hslot

theorem setExplicitText (h : s.Pictured slots) (hfresh : ∀ t ∈ slots, t.address ≠ a)
    {text : String} (hok : s.setExplicitText a text = .ok t)
    (hslot : (Slot.mk cell a).isPicture = false) : t.Pictured (slots ++ [⟨cell, a⟩]) := by
  obtain ⟨-, rfl⟩ := editCell_eq_ok_iff.mp hok
  exact h.changeCell hfresh (fun _ => rfl) hslot

/-- A cell whose image is added to the drawings. -/
theorem addPicture (h : s.Pictured slots) (hfresh : ∀ t ∈ slots, t.address ≠ a) {d : Drawing}
    (hanchor : d.anchor = a) (hslot : (Slot.mk cell a).isPicture = true) :
    ((s.addDrawing d).changeCell a (·.withValue (.image s.drawings.length))).Pictured
      (slots ++ [⟨cell, a⟩]) := by
  have hanchors : ((s.addDrawing d).changeCell a
      (·.withValue (.image s.drawings.length))).anchors = s.anchors ++ [a] := by
    rw [← hanchor]
    exact List.map_append
  have hlength : s.anchors.length = s.drawings.length := List.length_map _
  constructor
  · rw [hanchors, h.anchors, List.filter_append]
    simp [hslot]
  · intro b index
    rw [valueAt_changeCell, hanchors]
    change (if b = a then Value.image s.drawings.length else s.valueAt b) = _ ↔ _
    rw [getElem?_concat_eq_some_iff, hlength]
    by_cases hb : b = a
    · rw [if_pos hb, Value.image.injEq]
      constructor
      · rintro rfl
        exact .inr ⟨rfl, hb.symm⟩
      · rintro (hold | ⟨rfl, -⟩)
        · exact absurd (hb ▸ List.mem_of_getElem? hold) (h.notMem_anchors hfresh)
        · rfl
    · rw [if_neg hb, h.shows]
      simp [Ne.symm hb]

theorem writePayload (h : s.Pictured slots) (hfresh : ∀ t ∈ slots, t.address ≠ a)
    (hok : s.writePayload context cell a = .ok t) : t.Pictured (slots ++ [⟨cell, a⟩]) := by
  simp only [Sheet.writePayload] at hok
  split at hok
  · next formula hformula =>
      refine h.setValue hfresh (liftSheet_eq_ok_iff.mp hok) (Value.picture?_ofFormula formula) ?_
      simp [Slot.isPicture, hformula]
  · next hformula =>
      split at hok
      · next source hsource =>
          obtain ⟨image, -, hok⟩ := bind_eq_ok_iff.mp hok
          obtain ⟨-, rfl⟩ := editCell_eq_ok_iff.mp (liftSheet_eq_ok_iff.mp hok)
          refine h.addPicture hfresh rfl ?_
          simp [Slot.isPicture, hformula, hsource]
      · next hsource =>
          have hslot : (Slot.mk cell a).isPicture = false := by
            simp [Slot.isPicture, hsource]
          split at hok
          · exact h.setExplicitText hfresh (liftSheet_eq_ok_iff.mp hok) hslot
          · exact h.setValue hfresh (liftSheet_eq_ok_iff.mp hok) (Scalar.picture?_value _) hslot

theorem carried : Carried context (fun _ _ => True) Pictured where
  height h hset := h.of_sameValues (sameValues_setRowHeight hset)
  cell _ _ hbefore h hok := by
    obtain ⟨t, hpayload, hsame⟩ := sameValues_of_placeCell hok
    exact (h.writePayload (fun t ht => (hbefore t ht).ne) hpayload).of_sameValues hsame

theorem mem_pictures_iff (h : s.Pictured slots) {index : Nat} :
    (a, index) ∈ s.pictures ↔ (a, index) ∈ s.anchors.zipIdx := by
  rw [List.mem_zipIdx_iff_getElem?, ← h.shows, valueAt_eq_image_iff]
  simp only [pictures, List.mem_filterMap, Prod.exists, Grid.mem_cells_iff,
    Option.map_eq_some_iff, Value.picture?_eq_some_iff, Prod.mk.injEq]
  constructor
  · rintro ⟨_, c, hcell, _, hvalue, rfl, rfl⟩
    exact ⟨c, hcell, hvalue⟩
  · rintro ⟨c, hcell, hvalue⟩
    exact ⟨a, c, hcell, index, hvalue, rfl, rfl⟩

/-- The indices that the cells hold count up in the order of the cells. -/
theorem pictures_eq (h : s.Pictured slots)
    (hordered : slots.Pairwise fun t u => t.address.Before u.address) :
    s.pictures = s.anchors.zipIdx := by
  refine Address.eq_of_pairwise_before_on Prod.fst ?_ ?_ fun _ => h.mem_pictures_iff
  · refine s.grid.cells_pairwise.filterMap _ ?_
    rintro ⟨a, c⟩ ⟨b, d⟩ hbefore p hp q hq
    obtain ⟨i, -, rfl⟩ := Option.map_eq_some_iff.mp hp
    obtain ⟨j, -, rfl⟩ := Option.map_eq_some_iff.mp hq
    exact hbefore
  · rw [← List.pairwise_map (R := Address.Before), List.zipIdx_map_fst, h.anchors,
      List.pairwise_map]
    exact hordered.filter _

end Pictured

theorem pictured_ofTable {table : Element} {taken : List String}
    (h : Sheet.ofTable context table taken = .ok s) :
    ∃ slots, TableLayout context.options.policy [] 1 table.tableRows slots ∧ s.Laid slots ∧
      s.Pictured slots := by
  obtain ⟨t, u, hcolumns, hbare, hrows, rfl⟩ := ofTable_eq_ok h
  have hstart : (start context.options table taken).Bare := bare_start _ table taken
  have hdrawings : t.drawings = [] := (hstart.drawings_withColumns hcolumns).trans (drawings_start ..)
  have hpictured : t.Pictured [] := by
    constructor
    · rw [anchors, hdrawings]
      rfl
    · intro a index
      rw [hbare.valueAt, anchors, hdrawings]
      exact iff_of_false nofun nofun
  obtain ⟨slots, hlayout, hlaid⟩ := hbare.laid.placeRows (by simp) hrows
  have hplaced : u.Pictured slots := Pictured.carried.placeRows hlayout hbare.laid
    (fun _ _ _ => trivial) (by simp) hpictured hrows
  exact ⟨slots, hlayout, hlaid.of_sameLayout (sameLayout_withAutosize u table),
    hplaced.of_sameValues (sameValues_withAutosize u table)⟩

end Sheet

/-- The cells that show an image hold the indices of the drawings in order, each of
the drawing that is anchored there; and these are the cells of the table that name
an image and no formula. -/
theorem Workbook.ofNodes_pictures {context : Context} {nodes : List Node} {w : Workbook}
    (h : ofNodes context nodes = .ok w) :
    List.Forall₂
      (fun table s => ∃ slots,
        TableLayout context.options.policy [] 1 table.tableRows slots ∧
          s.pictures.map (·.2) = List.range s.drawings.length ∧
          s.pictures.map (·.1) = s.anchors ∧
          (∀ a index, s.valueAt a = .image index ↔ s.anchors[index]? = some a) ∧
          s.anchors = (slots.filter Slot.isPicture).map Slot.address ∧
          ∀ slot ∈ slots, (slot.cell.mark? .formula).isSome = true →
            slot.address ∉ s.anchors ∧ ∀ index, s.valueAt slot.address ≠ .image index)
      (Node.findAll Element.isSheetTable nodes) w.sheets := by
  refine forall₂_ofNodes ?_ h
  intro table taken s hs
  obtain ⟨slots, hlayout, hlaid, hpictured⟩ := Sheet.pictured_ofTable hs
  have hpictures := hpictured.pictures_eq hlaid.ordered
  refine ⟨slots, hlayout, ?_, ?_, hpictured.shows, hpictured.anchors, ?_⟩
  · rw [hpictures, List.zipIdx_map_snd, Sheet.anchors, List.length_map, List.range_eq_range']
  · rw [hpictures, List.zipIdx_map_fst]
  · intro slot hslot hformula
    have hnot : slot.address ∉ s.anchors := by
      intro hanchor
      obtain ⟨other, hother, hpicture, haddress⟩ := hpictured.address_of_anchor hanchor
      obtain rfl := hlaid.eq_of_address hother hslot haddress
      rw [Slot.isPicture, Option.isNone_eq_false_iff.mpr hformula] at hpicture
      cases hpicture
    refine ⟨hnot, ?_⟩
    intro index himage
    exact hnot (List.mem_of_getElem? ((hpictured.shows _ _).mp himage))

/-- An image of two rows, one beside a formula that comes before it, and one after:
two drawings. -/
theorem Workbook.ofNodes_pictures_formula :
    let disk : Disk := { files := [(["a.png"], "")] }
    let context : Context := ⟨∅, {}, disk⟩
    let image : String × String := (Mark.image.name, "a.png")
    let nodes : List Node := [.element ⟨"table", [(Mark.sheet.name, "Data")], [
      .element ⟨"tr", [], [.element ⟨"td", [image, (Mark.rowSpan.name, "2")], []⟩,
        .element ⟨"td", [], [.text "a"]⟩]⟩,
      .element ⟨"tr", [], [.element ⟨"td", [(Mark.formula.name, "=A1"), image], []⟩,
        .element ⟨"th", [image], []⟩]⟩]⟩]
    ∃ w, ofNodes context nodes = .ok w ∧
      w.sheets.map (fun s => (s.pictures, s.anchors)) =
        [([(⟨1, 1⟩, 0), (⟨2, 3⟩, 1)], [⟨1, 1⟩, ⟨2, 3⟩])] ∧
      List.Forall₂
        (fun _ s => s.pictures.map (·.2) = List.range s.drawings.length ∧
          s.pictures.map (·.1) = s.anchors)
        (Node.findAll Element.isSheetTable nodes) w.sheets := by
  intro disk context image nodes
  have hsheets : ((ofNodes context nodes).toOption.map fun w =>
      w.sheets.map fun s => (s.pictures, s.anchors)) =
        some [([(⟨1, 1⟩, 0), (⟨2, 3⟩, 1)], [⟨1, 1⟩, ⟨2, 3⟩])] := by
    decide +kernel
  obtain ⟨w, h, hread⟩ := exists_ok_of_map_toOption hsheets
  refine ⟨w, h, hread, (ofNodes_pictures h).imp ?_⟩
  rintro table s ⟨slots, -, hindices, hanchors, -⟩
  exact ⟨hindices, hanchors⟩

end TableBook
