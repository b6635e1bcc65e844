import TableBook.Proofs.CoveredCell
import TableBook.Proofs.SeparateTables
import TableBook.Proofs.Strictness

/-!
What a document can be refused for. Every fault of a table comes from the marks of
one of its elements, from a style or an image that one of them names, or from a
place that the sheet refuses, and each of these can only say so much: a table never
fails for the text of an address.
-/

namespace TableBook

open TableFault

/-- What a sheet refuses a place for, as against what is wrong with a text. -/
def SheetFault.OfPlace : SheetFault → Prop
  | .invalidAddress _ | .invalidRange _ => False
  | _ => True

/-- The columns, rows and cells of a table, the elements that may name a style. -/
def Element.parts (table : Element) : List Element :=
  table.columnElements ++ table.tableRows.flatMap fun row => row :: row.rowCells

namespace Sheet

variable {s t : Sheet} {a : Address} {column row : Nat} {style : Style} {fault : SheetFault}

theorem ofPlace_checkRow (h : checkRow row = .error fault) : fault.OfPlace := by
  rw [checkRow] at h
  split at h
  · cases h
  · cases h
    trivial

theorem ofPlace_checkColumn (h : checkColumn column = .error fault) : fault.OfPlace := by
  rw [checkColumn] at h
  split at h
  · cases h
  · cases h
    trivial

theorem ofPlace_checkWritable (h : s.checkWritable a = .error fault) : fault.OfPlace := by
  rcases bind_eq_error_iff.mp h with hrow | ⟨_, -, h⟩
  · exact ofPlace_checkRow hrow
  rcases bind_eq_error_iff.mp h with hcolumn | ⟨_, -, h⟩
  · exact ofPlace_checkColumn hcolumn
  split at h
  · cases h
    trivial
  · cases h

theorem ofPlace_merge {m : Merge} (h : s.merge m = .error fault) : fault.OfPlace := by
  simp only [merge] at h
  split at h
  · cases h
    trivial
  · split at h
    · cases h
      trivial
    · split at h
      · cases h
        trivial
      · split at h
        · cases h
          trivial
        · cases h

theorem ofPlace_setRowHeight {height : Binary64} (h : s.setRowHeight row height = .error fault) :
    fault.OfPlace := by
  rcases bind_eq_error_iff.mp h with hrow | ⟨_, -, h⟩
  · exact ofPlace_checkRow hrow
  · cases h

theorem ofPlace_editColumn {f : Column → Column} (h : s.editColumn column f = .error fault) :
    fault.OfPlace := by
  rw [editColumn_eq, bind_eq_error_iff] at h
  rcases h with hcolumn | ⟨_, -, h⟩
  · exact ofPlace_checkColumn hcolumn
  · cases h

theorem ofPlace_styleCell (h : s.styleCell a style = .error fault) : fault.OfPlace := by
  rw [styleCell_eq, bind_eq_error_iff] at h
  rcases h with hwritable | ⟨_, -, h⟩
  · exact ofPlace_checkWritable hwritable
  · cases h

theorem toExcept_andThen_eq_error_iff {attempt : Attempt} {next : Sheet → Attempt} :
    (attempt.andThen next).toExcept = .error fault ↔
      attempt.toExcept = .error fault ∨
        ∃ t, attempt.toExcept = .ok t ∧ (next t).toExcept = .error fault := by
  obtain ⟨t, _ | fault⟩ := attempt <;> simp [Attempt.andThen, Attempt.toExcept]

theorem ofPlace_styleCells {positions : List Address}
    (h : (s.styleCells style positions).toExcept = .error fault) : fault.OfPlace := by
  induction positions generalizing s with
  | nil => cases h
  | cons a rest ih =>
      rw [styleCells, toExcept_andThen_eq_error_iff, toExcept_ofExcept] at h
      rcases h with hcell | ⟨t, -, hrest⟩
      · exact ofPlace_styleCell hcell
      · exact ih hrest

theorem ofPlace_styleWholeColumn (h : (s.styleWholeColumn column style).toExcept = .error fault) :
    fault.OfPlace := by
  rcases toExcept_andThen_eq_error_iff.mp h with hcells | ⟨t, -, hcolumn⟩
  · exact ofPlace_styleCells hcells
  · rw [styleColumn_eq, toExcept_ofExcept] at hcolumn
    exact ofPlace_editColumn hcolumn

end Sheet

/-- A fault that comes from one of some elements, or from a place of the sheet. -/
inductive Arises (context : Context) (elements : List Element) : TableFault → Prop
  | check {e : Element} {fault : TableFault} (he : e ∈ elements)
      (h : e.check context.options.strict = .error fault) : Arises context elements fault
  | style {e : Element} {name : String} (he : e ∈ elements)
      (hname : e.mark? .namedStyle = some name) (h : context.catalogue.get? name = none) :
      Arises context elements (.unknownStyle ⟨name, context.catalogue.keys⟩)
  | image {e : Element} {source : String} {fault : ImageFault} (he : e ∈ elements)
      (hsource : e.mark? .image = some source)
      (h : ImageSource.resolve context.disk source context.options.imageFolder = .error fault) :
      Arises context elements (.image fault)
  | place {fault : SheetFault} (h : fault.OfPlace) : Arises context elements (ofSheet fault)

namespace Arises

variable {context : Context} {elements : List Element} {e : Element} {fault : TableFault}

theorem mono {elements' : List Element} (h : Arises context elements fault)
    (hsub : elements ⊆ elements') : Arises context elements' fault := by
  cases h with
  | check he h => exact .check (hsub he) h
  | style he hname h => exact .style (hsub he) hname h
  | image he hsource h => exact .image (hsub he) hsource h
  | place h => exact .place h

theorem liftSheet {α : Type} {x : Except SheetFault α} (h : liftSheet x = .error fault)
    (hplace : ∀ {cause}, x = .error cause → cause.OfPlace) : Arises context elements fault := by
  obtain ⟨cause, hcause, rfl⟩ := liftSheet_eq_error_iff.mp h
  exact .place (hplace hcause)

theorem editIf {s : Sheet} {α : Type} {value : Option α}
    {edit : Sheet → α → Except SheetFault Sheet} (h : s.editIf value edit = .error fault)
    (hplace : ∀ {x cause}, edit s x = .error cause → cause.OfPlace) :
    Arises context elements fault := by
  obtain ⟨x, cause, -, hcause, rfl⟩ := Sheet.editIf_eq_error_iff.mp h
  exact .place (hplace hcause)

theorem liftStyle (he : e ∈ elements) {name : String} (hname : e.mark? .namedStyle = some name)
    (h : liftStyle (context.catalogue.named name) = .error fault) :
    Arises context elements fault := by
  obtain ⟨missing, hmissing, rfl⟩ := mapError_eq_error_iff.mp h
  rw [Catalogue.named] at hmissing
  split at hmissing
  · cases hmissing
  · next hnone =>
      cases hmissing
      exact .style he hname hnone

theorem namedStyle (he : e ∈ elements)
    (h : Sheet.namedStyle context (e.mark? .namedStyle) = .error fault) :
    Arises context elements fault := by
  cases hname : e.mark? .namedStyle with
  | none =>
      rw [hname] at h
      cases h
  | some name =>
      rw [hname] at h
      exact liftStyle he hname h

section Stages

open Sheet

variable {s : Sheet} {row column : Nat}

theorem cellStyle {cell : Element} (he : e ∈ elements) (hcell : cell ∈ elements)
    (h : cellStyle context cell (e.mark? .namedStyle) = .error fault) :
    Arises context elements fault := by
  rcases bind_eq_error_iff.mp h with hrow | ⟨_, -, h⟩
  · exact namedStyle he hrow
  rcases bind_eq_error_iff.mp h with hown | ⟨_, -, h⟩
  · exact namedStyle hcell hown
  · cases h

theorem placeCell {cell : Element} {a : Address} (he : e ∈ elements) (hcell : cell ∈ elements)
    (h : s.placeCell context cell a (e.mark? .namedStyle) = .error fault) :
    Arises context elements fault := by
  cases placeCell_eq_error h with
  | check hcheck => exact .check hcell hcheck
  | image hsource himage => exact .image hcell hsource himage
  | style hstyle => exact cellStyle he hcell hstyle
  | place hplace => exact .place (ofPlace_checkWritable hplace)
  | region _ _ hmerge => exact .place (ofPlace_merge hmerge)

theorem placeCells {cells : List Element} (he : e ∈ elements) (hcells : cells ⊆ elements)
    (h : s.placeCells context row column (e.mark? .namedStyle) cells = .error fault) :
    Arises context elements fault := by
  induction cells generalizing s column with
  | nil => cases h
  | cons cell cells ih =>
      obtain ⟨hcell, hrest⟩ := List.cons_subset.mp hcells
      rw [placeCells_cons, bind_eq_error_iff] at h
      rcases h with h | ⟨t, -, h⟩
      · exact placeCell he hcell h
      · split at h
        · exact ih hrest h
        · cases h
          exact .place trivial

theorem placeRow (h : s.placeRow context row e = .error fault) :
    Arises context (e :: e.rowCells) fault := by
  have he : e ∈ e :: e.rowCells := List.mem_cons_self
  rw [Sheet.placeRow, bind_eq_error_iff] at h
  rcases h with hcheck | ⟨_, -, h⟩
  · exact .check he hcheck
  rcases bind_eq_error_iff.mp h with hheight | ⟨t, -, h⟩
  · exact editIf hheight ofPlace_setRowHeight
  · exact placeCells he (List.subset_cons_self _ _) h

theorem placeRows {rows : List Element} (h : s.placeRows context row rows = .error fault) :
    Arises context (rows.flatMap fun row => row :: row.rowCells) fault := by
  induction rows generalizing s row with
  | nil => cases h
  | cons e rows ih =>
      rw [List.flatMap_cons]
      rcases bind_eq_error_iff.mp h with hrow | ⟨t, -, hrest⟩
      · exact (placeRow hrow).mono (List.subset_append_left _ _)
      · exact (ih hrest).mono (List.subset_append_right _ _)

theorem withColumn (he : e ∈ elements) (h : s.withColumn context column e = .error fault) :
    Arises context elements fault := by
  rw [withColumn_eq, bind_eq_error_iff] at h
  rcases h with hcheck | ⟨_, -, h⟩
  · exact .check he hcheck
  rcases bind_eq_error_iff.mp h with hwidth | ⟨t₁, -, h⟩
  · exact editIf hwidth ofPlace_editColumn
  rcases bind_eq_error_iff.mp h with hhidden | ⟨t₂, -, h⟩
  · exact editIf hhidden ofPlace_editColumn
  split at h
  · next name hname =>
      rcases bind_eq_error_iff.mp h with hstyle | ⟨style, -, h⟩
      · exact liftStyle he hname hstyle
      · exact liftSheet h ofPlace_styleWholeColumn
  · cases h

theorem withColumns {columns : List Element} (hcolumns : columns ⊆ elements)
    (h : s.withColumns context column columns = .error fault) :
    Arises context elements fault := by
  induction columns generalizing s column with
  | nil => cases h
  | cons e rest ih =>
      obtain ⟨he, hrest⟩ := List.cons_subset.mp hcolumns
      rcases bind_eq_error_iff.mp h with h | ⟨t, -, h⟩
      · exact withColumn he h
      · exact ih hrest h

/-- A table fails by its own marks or by one of its parts. -/
theorem ofTable {table : Element} {taken : List String}
    (h : Sheet.ofTable context table taken = .error fault) :
    table.check context.options.strict = .error fault ∨ Arises context table.parts fault := by
  rw [ofTable_eq, bind_eq_error_iff] at h
  rcases h with hcheck | ⟨_, -, h⟩
  · exact .inl hcheck
  refine .inr ?_
  rcases bind_eq_error_iff.mp h with hcolumns | ⟨t, -, h⟩
  · exact withColumns (List.subset_append_left _ _) hcolumns
  rcases bind_eq_error_iff.mp h with hrows | ⟨u, -, h⟩
  · exact (placeRows hrows).mono (List.subset_append_right _ _)
  · cases h

end Stages

end Arises

/-- The check of an element finds fault in strict reading only. -/
theorem Element.check_eq_error_strict {e : Element} {strict : Bool} {fault : TableFault}
    (h : e.check strict = .error fault) : strict = true ∧ ∃ f, fault = .mark f := by
  obtain ⟨name, value, f, -, -, hcheck, rfl⟩ := Element.check_eq_error h
  cases strict with
  | false => cases hcheck
  | true => exact ⟨rfl, f, rfl⟩

/-- A mark that is there and not empty. -/
theorem Element.attribute?_of_mark? {e : Element} {a : Mark} {value : String}
    (h : e.mark? a = some value) : e.attribute? a.name = some value ∧ value ≠ "" := by
  obtain ⟨hvalue, hfilled⟩ := Option.filter_eq_some_iff.mp h
  refine ⟨hvalue, ?_⟩
  rintro rfl
  cases hfilled

namespace Arises

variable {context : Context} {elements : List Element}

/-- What reaches the caller as a fault of the sheet is a place outside the bounds. -/
theorem of_sheet {f : SheetFault} (h : Arises context elements (.sheet f)) :
    (∃ row, f = .rowOutOfBounds row) ∨ ∃ column, f = .columnOutOfBounds column := by
  generalize hcause : TableFault.sheet f = cause at h
  cases h with
  | check _ hcheck =>
      obtain ⟨-, f, rfl⟩ := Element.check_eq_error_strict hcheck
      cases hcause
  | style => cases hcause
  | image => cases hcause
  | @place fault hplace =>
      cases fault with
      | rowOutOfBounds row =>
          cases hcause
          exact .inl ⟨row, rfl⟩
      | columnOutOfBounds column =>
          cases hcause
          exact .inr ⟨column, rfl⟩
      | invalidAddress => cases hplace
      | invalidRange => cases hplace
      | mergeConflict => cases hcause
      | coveredCell => cases hcause

theorem of_mark {f : AttributeFault} (h : Arises context elements (.mark f))
    (hstrict : context.options.strict = false) :
    (∃ range existing, f = .mergeConflict range existing) ∨
      ∃ cell region, f = .coveredCell cell region := by
  generalize hcause : TableFault.mark f = cause at h
  cases h with
  | check _ hcheck =>
      rw [hstrict] at hcheck
      cases (Element.check_eq_error_strict hcheck).1
  | style => cases hcause
  | image => cases hcause
  | @place fault hplace =>
      cases fault with
      | mergeConflict range existing =>
          cases hcause
          exact .inl ⟨range, existing, rfl⟩
      | coveredCell cell region =>
          cases hcause
          exact .inr ⟨cell, region, rfl⟩
      | _ => cases hcause

theorem of_unknownStyle {missing : UnknownStyle}
    (h : Arises context elements (.unknownStyle missing)) :
    context.catalogue.get? missing.name = none ∧ missing.known = context.catalogue.keys ∧
      missing.name ≠ "" ∧
        ∃ e ∈ elements, e.attribute? Mark.namedStyle.name = some missing.name := by
  generalize hcause : TableFault.unknownStyle missing = cause at h
  cases h with
  | check _ hcheck =>
      obtain ⟨-, f, rfl⟩ := Element.check_eq_error_strict hcheck
      cases hcause
  | @style e name he hname hnone =>
      cases hcause
      obtain ⟨hvalue, hfilled⟩ := Element.attribute?_of_mark? hname
      exact ⟨hnone, rfl, hfilled, e, he, hvalue⟩
  | image => cases hcause
  | @place fault => cases fault <;> cases hcause

end Arises

namespace Workbook

variable {context : Context} {nodes : List Node}

/-- A document is refused for having no table, or for one of its tables. That one
is refused for a mark, and without strictness only for where a region or a cell
lies; for a style that a column, row or cell of the table names and that is not
known; for an image; or for a place outside the bounds. -/
theorem ofNodes_refusal {fault : DocumentFault} (h : ofNodes context nodes = .error fault) :
    fault = .noTable ∨ ∃ index table cause,
      (Node.findAll Element.isSheetTable nodes)[index]? = some table ∧
        fault = .table index table.sheetName cause ∧
        (∀ f, cause = .sheet f →
          (∃ row, f = .rowOutOfBounds row) ∨ ∃ column, f = .columnOutOfBounds column) ∧
        (context.options.strict = false → ∀ f, cause = .mark f →
          (∃ range existing, f = .mergeConflict range existing) ∨
            ∃ cell region, f = .coveredCell cell region) ∧
        ∀ missing, cause = .unknownStyle missing →
          context.catalogue.get? missing.name = none ∧ missing.known = context.catalogue.keys ∧
            missing.name ≠ "" ∧
              ∃ e ∈ table.parts, e.attribute? Mark.namedStyle.name = some missing.name := by
  by_cases hnone : fault = .noTable
  · exact .inl hnone
  obtain ⟨before, table, after, cause, htables, -, hcause, hfault⟩ :=
    (ofNodes_eq_error_iff hnone).mp h
  refine .inr ⟨before.length, table, cause, by simp [htables], hfault, ?_⟩
  rcases Arises.ofTable hcause with hcheck | harises
  · obtain ⟨hstrict, f, rfl⟩ := Element.check_eq_error_strict hcheck
    refine ⟨nofun, ?_, nofun⟩
    intro hpermissive
    rw [hpermissive] at hstrict
    cases hstrict
  · refine ⟨?_, ?_, ?_⟩
    · rintro f rfl
      exact harises.of_sheet
    · rintro hpermissive f rfl
      exact harises.of_mark hpermissive
    · rintro missing rfl
      exact harises.of_unknownStyle

/-- The second table has a row whose style is not known. -/
theorem ofNodes_refusal_style :
    let context : Context := ⟨Keyed.ofList [("warn", {})], {}, {}⟩
    let styled (name : String) : Node := .element ⟨"table", [(Mark.sheet.name, "Data")], [
      .element ⟨"tr", [(Mark.namedStyle.name, name)], [.element ⟨"td", [], [.text "1"]⟩]⟩]⟩
    let nodes : List Node := [styled "warn", styled "alert"]
    let fault : DocumentFault := .table 1 "Data" (.unknownStyle ⟨"alert", ["warn"]⟩)
    ofNodes context nodes = .error fault ∧
      ∃ index table cause, (Node.findAll Element.isSheetTable nodes)[index]? = some table ∧
        fault = .table index table.sheetName cause ∧
        ∀ missing, cause = .unknownStyle missing → context.catalogue.get? missing.name = none ∧
          ∃ e ∈ table.parts, e.attribute? Mark.namedStyle.name = some missing.name := by
  intro context styled nodes fault
  have hfault : ofNodes context nodes = .error fault :=
    refusal?_eq_some_iff.mp (by decide +kernel)
  refine ⟨hfault, ?_⟩
  obtain hnone | ⟨index, table, cause, htable, hcause, -, -, hstyle⟩ := ofNodes_refusal hfault
  · exact DocumentFault.noConfusion hnone
  · refine ⟨index, table, cause, htable, hcause, ?_⟩
    intro missing hmissing
    obtain ⟨hunknown, -, -, hnamed⟩ := hstyle missing hmissing
    exact ⟨hunknown, hnamed⟩

end Workbook

end TableBook
