import TableBook.Proofs.ManyCells
import TableBook.Proofs.TableSheet

/-!
The reading of a table as a run of edits. Each of them is one that an element of the table asks
for, and all succeed, so what such edits keep the reading keeps. The settings of the table come
before the run, and the sizing of the columns is a run of its own after it.
-/

namespace TableBook

/-- The edits that a cell of a table asks for at its place. -/
inductive Element.CellEdit (context : Context) (cell : Element) (a : Address)
    (rowStyle : Option String) : Edit → Prop
  | formula {text : String} (h : cell.mark? .formula = some text) :
      CellEdit context cell a rowStyle (.formula a text)
  | drawing {source : String} {image : ImageSource} (h : cell.mark? .image = some source)
      (hread : ImageSource.resolve context.disk source context.options.imageFolder = .ok image) :
      CellEdit context cell a rowStyle (.drawing {
        anchor := a
        source := image
        width := (cell.mark? .imageWidth).bind Reader.leadingNumber
        height := (cell.mark? .imageHeight).bind Reader.leadingNumber })
  | image {source : String} (h : cell.mark? .image = some source) (index : Nat) :
      CellEdit context cell a rowStyle (.value a (.image index))
  | explicitText {text : String} (hformula : cell.mark? .formula = none)
      (himage : cell.mark? .image = none)
      (h : cell.scalar context.options = .explicitText text) :
      CellEdit context cell a rowStyle (.explicitText a text)
  | value (hformula : cell.mark? .formula = none) (himage : cell.mark? .image = none) :
      CellEdit context cell a rowStyle (.value a (cell.scalar context.options).value)
  | style {style : Style} (h : Sheet.cellStyle context cell rowStyle = .ok style) :
      CellEdit context cell a rowStyle (.style a style)
  | link {target : String} (h : cell.linkTarget? = some target) :
      CellEdit context cell a rowStyle (.link a ⟨target, cell.mark? .linkTooltip⟩)
  | comment {comment : Comment} (h : cell.comment? = some comment) :
      CellEdit context cell a rowStyle (.comment a comment)
  | choices {value : String} (h : cell.mark? .choices = some value) :
      CellEdit context cell a rowStyle (.choices a (Reader.options value))
  | merge {m : Merge} (h : (Slot.mk cell a).merge? = some m) :
      CellEdit context cell a rowStyle (.merge m)

/-- The edits that the elements of a table ask for. -/
inductive Element.TableEdit (context : Context) (table : Element) : Edit → Prop
  | width {e : Element} {column : Nat} {width : Binary64} (he : e ∈ table.columnElements)
      (h : (e.mark? .width).bind Directive.readPositive = some width) :
      TableEdit context table (.columnWidth column width)
  | hidden {e : Element} {column : Nat} (he : e ∈ table.columnElements)
      (h : e.attribute? Mark.hidden.name = some "true") :
      TableEdit context table (.columnHidden column true)
  | column {e : Element} {column : Nat} {name : String} {style : Style}
      (he : e ∈ table.columnElements) (hname : e.mark? .namedStyle = some name)
      (h : context.catalogue.named name = .ok style) :
      TableEdit context table (.styleWholeColumn column style)
  | height {e : Element} {row : Nat} {height : Binary64} (he : e ∈ table.tableRows)
      (h : (e.mark? .height).bind Directive.readPositive = some height) :
      TableEdit context table (.rowHeight row height)
  | cell {e cell : Element} {a : Address} {edit : Edit} (he : e ∈ table.tableRows)
      (hcell : cell ∈ e.rowCells) (h : cell.CellEdit context a (e.mark? .namedStyle) edit) :
      TableEdit context table edit

namespace Sheet

open TableFault

variable {s t u : Sheet} {context : Context} {Asked : Edit → Prop} {edit : Edit}

/-- An edit that is asked for and succeeds. -/
def Step (Asked : Edit → Prop) (s t : Sheet) : Prop :=
  ∃ edit, Asked edit ∧ s.attempt edit = ⟨t, none⟩

/-- A run of edits that are asked for and succeed. -/
abbrev Steps (Asked : Edit → Prop) : Sheet → Sheet → Prop := Relation.ReflTransGen (Step Asked)

theorem Steps.mono {Asked' : Edit → Prop} (h : s.Steps Asked t)
    (hasked : ∀ edit, Asked edit → Asked' edit) : s.Steps Asked' t :=
  Relation.ReflTransGen.mono (fun _ _ ⟨edit, hedit, hok⟩ => ⟨edit, hasked edit hedit, hok⟩) _ _ h

/-- What each edit that is asked for keeps a run of them keeps. -/
theorem Steps.invariant {P : Sheet → Prop} (h : s.Steps Asked t)
    (hstep : ∀ edit s t, Asked edit → s.attempt edit = ⟨t, none⟩ → P s → P t) (hs : P s) : P t := by
  induction h with
  | refl => exact hs
  | tail _ hlast ih =>
      obtain ⟨edit, hasked, hok⟩ := hlast
      exact hstep edit _ _ hasked hok ih

theorem ofExcept_eq_ok_iff {result : Except SheetFault Sheet} :
    Attempt.ofExcept s result = ⟨t, none⟩ ↔ result = .ok t := by
  rw [← toExcept_eq_ok_iff, toExcept_ofExcept]

theorem Steps.of_attempt (hedit : Asked edit) (h : s.attempt edit = ⟨t, none⟩) :
    s.Steps Asked t :=
  .single ⟨edit, hedit, h⟩

theorem Steps.of_ok {result : Except SheetFault Sheet} (hedit : Asked edit)
    (hattempt : s.attempt edit = .ofExcept s result) (h : result = .ok t) : s.Steps Asked t := by
  refine .of_attempt hedit ?_
  rw [hattempt, ofExcept_eq_ok_iff, h]

theorem Steps.of_editIf {α : Type} {value : Option α} {f : Sheet → α → Except SheetFault Sheet}
    (hedit : ∀ x, value = some x → ∃ edit, Asked edit ∧ s.attempt edit = .ofExcept s (f s x))
    (h : s.editIf value f = .ok t) : s.Steps Asked t := by
  refine keeps_editIf .refl ?_ h
  intro x t hx hok
  obtain ⟨edit, hasked, hattempt⟩ := hedit x hx
  exact .of_ok hasked hattempt hok

section Cell

variable {cell : Element} {a : Address} {rowStyle : Option String}

theorem steps_writePayload (h : s.writePayload context cell a = .ok t) :
    s.Steps (cell.CellEdit context a rowStyle) t := by
  simp only [writePayload] at h
  split at h
  · next formula hformula => exact .of_ok (.formula hformula) rfl (liftSheet_eq_ok_iff.mp h)
  · next hformula =>
      split at h
      · next source hsource =>
          obtain ⟨image, hread, h⟩ := bind_eq_ok_iff.mp h
          exact .trans (Steps.of_attempt (.drawing hsource (mapError_eq_ok_iff.mp hread)) rfl)
            (Steps.of_ok (.image hsource s.drawings.length) rfl (liftSheet_eq_ok_iff.mp h))
      · next himage =>
          split at h
          · next text htext =>
              exact .of_ok (.explicitText hformula himage htext) rfl (liftSheet_eq_ok_iff.mp h)
          · exact .of_ok (.value hformula himage) rfl (liftSheet_eq_ok_iff.mp h)

theorem steps_attach (h : s.attach cell a = .ok u) :
    s.Steps (cell.CellEdit context a rowStyle) u := by
  obtain ⟨t₁, hlink, h⟩ := bind_eq_ok_iff.mp h
  obtain ⟨t₂, hcomment, hchoices⟩ := bind_eq_ok_iff.mp h
  have h₁ : s.Steps (cell.CellEdit context a rowStyle) t₁ := by
    refine .of_editIf ?_ hlink
    intro link hsome
    obtain ⟨target, htarget, rfl⟩ := Option.map_eq_some_iff.mp hsome
    exact ⟨_, .link htarget, rfl⟩
  have h₂ : t₁.Steps (cell.CellEdit context a rowStyle) t₂ :=
    .of_editIf (fun comment hsome => ⟨_, .comment hsome, rfl⟩) hcomment
  have h₃ : t₂.Steps (cell.CellEdit context a rowStyle) u := by
    refine .of_editIf ?_ hchoices
    intro options hsome
    obtain ⟨value, hvalue, rfl⟩ := Option.map_eq_some_iff.mp hsome
    exact ⟨_, .choices hvalue, rfl⟩
  exact (h₁.trans h₂).trans h₃

theorem steps_placeCell (h : s.placeCell context cell a rowStyle = .ok u) :
    s.Steps (cell.CellEdit context a rowStyle) u := by
  obtain ⟨t₁, style, t₂, t₃, hpayload, hcellStyle, hstyle, hattach, hmerge⟩ := stages_of_placeCell h
  have h₁ : s.Steps (cell.CellEdit context a rowStyle) t₁ := steps_writePayload hpayload
  have h₂ : t₁.Steps (cell.CellEdit context a rowStyle) t₂ :=
    keeps_styleIf .refl (Steps.of_ok (.style hcellStyle) rfl) hstyle
  have h₃ : t₂.Steps (cell.CellEdit context a rowStyle) t₃ := steps_attach hattach
  have h₄ : t₃.Steps (cell.CellEdit context a rowStyle) u :=
    .of_editIf (fun m hm => ⟨_, .merge hm, rfl⟩) hmerge
  exact ((h₁.trans h₂).trans h₃).trans h₄

end Cell

section Table

variable {table e : Element}

theorem steps_placeCells {row column : Nat} {cells : List Element} (he : e ∈ table.tableRows)
    (hcells : ∀ cell ∈ cells, cell ∈ e.rowCells)
    (h : s.placeCells context row column (e.mark? .namedStyle) cells = .ok u) :
    s.Steps (table.TableEdit context) u := by
  induction cells generalizing s column with
  | nil =>
      cases h
      exact .refl
  | cons cell cells ih =>
      obtain ⟨t, hcell, hrest⟩ := placeCells_cons_eq_ok h
      rw [List.forall_mem_cons] at hcells
      have hsteps := (steps_placeCell hcell).mono fun _ hedit =>
        Element.TableEdit.cell he hcells.1 hedit
      exact hsteps.trans (ih hcells.2 hrest)

theorem steps_placeRow {row : Nat} (he : e ∈ table.tableRows)
    (h : s.placeRow context row e = .ok u) : s.Steps (table.TableEdit context) u := by
  rw [placeRow, check_bind_eq_ok_iff] at h
  obtain ⟨t, hheight, hcells⟩ := bind_eq_ok_iff.mp h.2
  have hsteps : s.Steps (table.TableEdit context) t :=
    .of_editIf (fun height hsome => ⟨_, .height he hsome, rfl⟩) hheight
  exact hsteps.trans (steps_placeCells he (fun _ => id) hcells)

theorem steps_placeRows {row : Nat} {rows : List Element}
    (hrows : ∀ e ∈ rows, e ∈ table.tableRows) (h : s.placeRows context row rows = .ok u) :
    s.Steps (table.TableEdit context) u := by
  induction rows generalizing s row with
  | nil =>
      cases h
      exact .refl
  | cons e rows ih =>
      obtain ⟨t, hrow, hrest⟩ := bind_eq_ok_iff.mp h
      rw [List.forall_mem_cons] at hrows
      exact (steps_placeRow hrows.1 hrow).trans (ih hrows.2 hrest)

theorem steps_withColumn {column : Nat} (he : e ∈ table.columnElements)
    (h : s.withColumn context column e = .ok u) : s.Steps (table.TableEdit context) u := by
  rw [withColumn_eq, check_bind_eq_ok_iff] at h
  obtain ⟨t₁, hwidth, h⟩ := bind_eq_ok_iff.mp h.2
  obtain ⟨t₂, hhidden, h⟩ := bind_eq_ok_iff.mp h
  have h₁ : s.Steps (table.TableEdit context) t₁ :=
    .of_editIf (fun width hsome => ⟨.columnWidth column width, .width he hsome, rfl⟩) hwidth
  have h₂ : t₁.Steps (table.TableEdit context) t₂ := by
    refine .of_editIf ?_ hhidden
    intro hidden hsome
    split at hsome
    · next hmark =>
        cases hsome
        exact ⟨.columnHidden column true, .hidden he hmark, rfl⟩
    · cases hsome
  split at h
  · next name hname =>
      obtain ⟨style, hnamed, hstyle⟩ := bind_eq_ok_iff.mp h
      replace hnamed := mapError_eq_ok_iff.mp hnamed
      replace hstyle := toExcept_eq_ok_iff.mp (liftSheet_eq_ok_iff.mp hstyle)
      have hasked : table.TableEdit context (.styleWholeColumn column style) :=
        .column he hname hnamed
      have h₃ : t₂.Steps (table.TableEdit context) u := .of_attempt hasked hstyle
      exact (h₁.trans h₂).trans h₃
  · cases h
    exact h₁.trans h₂

theorem steps_withColumns {column : Nat} {columns : List Element}
    (hcolumns : ∀ e ∈ columns, e ∈ table.columnElements)
    (h : s.withColumns context column columns = .ok u) : s.Steps (table.TableEdit context) u := by
  induction columns generalizing s column with
  | nil =>
      cases h
      exact .refl
  | cons e rest ih =>
      obtain ⟨t, hcolumn, hrest⟩ := bind_eq_ok_iff.mp h
      rw [List.forall_mem_cons] at hcolumns
      exact (steps_withColumn hcolumns.1 hcolumn).trans (ih hcolumns.2 hrest)

theorem steps_withAutosize (s : Sheet) (table : Element) :
    s.Steps (fun edit => ∃ column, edit = .columnAutoSize column true) (s.withAutosize table) :=
  keeps_withAutosize table .refl fun h hedit => h.trans (Steps.of_ok ⟨_, rfl⟩ rfl hedit)

end Table

end Sheet

end TableBook
