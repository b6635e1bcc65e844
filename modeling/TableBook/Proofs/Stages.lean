import TableBook.Proofs.Layout

namespace TableBook

open TableFault

theorem liftSheet_eq_ok_iff {α : Type} {x : Except SheetFault α} {a : α} :
    liftSheet x = .ok a ↔ x = .ok a := mapError_eq_ok_iff

namespace Sheet

variable {s t u : Sheet} {a : Address} {context : Context} {cell e : Element} {P : Sheet → Prop}

section Edits

variable {α : Type} {value : Option α} {edit : Sheet → α → Except SheetFault Sheet}

theorem editIf_eq_ok_iff :
    s.editIf value edit = .ok t ↔
      (value = none ∧ t = s) ∨ ∃ x, value = some x ∧ edit s x = .ok t := by
  cases value with
  | none => simp [editIf, eq_comm]
  | some x => simp [editIf, liftSheet_eq_ok_iff]

theorem keeps_editIf (hs : P s) (hedit : ∀ {x t}, value = some x → edit s x = .ok t → P t)
    (h : s.editIf value edit = .ok t) : P t := by
  rcases editIf_eq_ok_iff.mp h with ⟨-, rfl⟩ | ⟨x, hx, hok⟩
  · exact hs
  · exact hedit hx hok

end Edits

section Cell

/-- Style a cell unless there is nothing to merge. -/
def styleIf (s : Sheet) (a : Address) (style : Style) : Except TableFault Sheet :=
  if style.isEmpty then .ok s else liftSheet (s.styleCell a style)

/-- Give a cell its link, comment and choices. -/
def attach (s : Sheet) (cell : Element) (a : Address) : Except TableFault Sheet :=
  s.editIf (cell.linkTarget?.map fun target => Link.mk target (cell.mark? .linkTooltip))
      (fun s link => s.setLink a link) >>= fun s =>
    s.editIf cell.comment? (fun s comment => s.setComment a comment) >>= fun s =>
      s.editIf ((cell.mark? .choices).map Reader.options) fun s options =>
        s.setChoices a (.ofOptions options)

/-- The stages of the writing of a cell; the region comes last. -/
theorem placeCell_eq (context : Context) (s : Sheet) (cell : Element) (a : Address)
    (rowStyle : Option String) :
    s.placeCell context cell a rowStyle =
      cell.check context.options.strict >>= fun _ =>
        s.writePayload context cell a >>= fun s =>
          cellStyle context cell rowStyle >>= fun style =>
            s.styleIf a style >>= fun s =>
              s.attach cell a >>= fun s =>
                s.editIf (Slot.mk cell a).merge? fun s m => s.merge m := by
  rw [placeCell]
  refine bind_congr fun _ => bind_congr fun t => bind_congr fun style => ?_
  simp only [attach, bind_assoc]
  rw [styleIf]
  cases style.isEmpty <;> rfl

/-- The sheets between the stages, for a cell that is placed. -/
theorem stages_of_placeCell {rowStyle : Option String}
    (h : s.placeCell context cell a rowStyle = .ok u) :
    ∃ t₁ style t₂ t₃, s.writePayload context cell a = .ok t₁ ∧
      cellStyle context cell rowStyle = .ok style ∧ t₁.styleIf a style = .ok t₂ ∧
      t₂.attach cell a = .ok t₃ ∧
      t₃.editIf (Slot.mk cell a).merge? (fun s m => s.merge m) = .ok u := by
  rw [placeCell_eq, check_bind_eq_ok_iff] at h
  obtain ⟨t₁, hpayload, h⟩ := bind_eq_ok_iff.mp h.2
  obtain ⟨style, hcellStyle, h⟩ := bind_eq_ok_iff.mp h
  obtain ⟨t₂, hstyle, h⟩ := bind_eq_ok_iff.mp h
  obtain ⟨t₃, hattach, hmerge⟩ := bind_eq_ok_iff.mp h
  exact ⟨t₁, style, t₂, t₃, hpayload, hcellStyle, hstyle, hattach, hmerge⟩

theorem keeps_styleIf {style : Style} (hs : P s)
    (hstyle : ∀ {t}, s.styleCell a style = .ok t → P t) (h : s.styleIf a style = .ok t) : P t := by
  rw [styleIf] at h
  split at h
  · cases h
    exact hs
  · exact hstyle (liftSheet_eq_ok_iff.mp h)

/-- The edits that give a cell what is attached to it. -/
inductive Attaches : (Cell → Cell) → Prop
  | link (link : Link) : Attaches fun c => { c with link := some link }
  | comment (comment : Comment) : Attaches fun c => { c with comment := some comment }
  | choices (choices : Choices) : Attaches fun c => { c with choices := some choices }

theorem Attaches.value_eq {f : Cell → Cell} (h : Attaches f) (c : Cell) :
    (f c).value = c.value := by
  cases h <;> rfl

theorem keeps_attach (hs : P s)
    (hattach : ∀ {s t f}, Attaches f → P s → s.editCell a f = .ok t → P t)
    (h : s.attach cell a = .ok u) : P u := by
  obtain ⟨t₁, hlink, h⟩ := bind_eq_ok_iff.mp h
  obtain ⟨t₂, hcomment, hchoices⟩ := bind_eq_ok_iff.mp h
  have h₁ : P t₁ := keeps_editIf hs (fun _ => hattach (.link _) hs) hlink
  have h₂ : P t₂ := keeps_editIf h₁ (fun _ => hattach (.comment _) h₁) hcomment
  exact keeps_editIf h₂ (fun _ => hattach (.choices _) h₂) hchoices

end Cell

section Settings

/-- What is in a sheet is the same; its settings may differ. -/
structure SameContents (s t : Sheet) : Prop where
  name : t.name = s.name
  grid : t.grid = s.grid
  pool : t.pool = s.pool
  columns : t.columns = s.columns
  rows : t.rows = s.rows
  merges : t.merges = s.merges
  drawings : t.drawings = s.drawings

theorem SameContents.refl (s : Sheet) : s.SameContents s := ⟨rfl, rfl, rfl, rfl, rfl, rfl, rfl⟩

theorem SameContents.trans (h : s.SameContents t) (h' : t.SameContents u) : s.SameContents u where
  name := h'.name.trans h.name
  grid := h'.grid.trans h.grid
  pool := h'.pool.trans h.pool
  columns := h'.columns.trans h.columns
  rows := h'.rows.trans h.rows
  merges := h'.merges.trans h.merges
  drawings := h'.drawings.trans h.drawings

theorem keeps_withSetting {α : Type} {value : Option String} {read : String → Option α}
    {set : Sheet → α → Sheet} (hs : P s) (hset : ∀ x, P (set s x)) :
    P (s.withSetting value read set) := by
  rw [withSetting]
  split
  · exact hset _
  · exact hs

theorem sameContents_withTableSettings (s : Sheet) (table : Element) :
    s.SameContents (s.withTableSettings table) := by
  rw [withTableSettings]
  repeat' refine .trans ?_ (keeps_withSetting (.refl _) fun _ => ⟨rfl, rfl, rfl, rfl, rfl, rfl, rfl⟩)
  exact .refl s

end Settings

section Columns

/-- The stages of the setting up of a column. -/
theorem withColumn_eq (context : Context) (s : Sheet) (column : Nat) (e : Element) :
    s.withColumn context column e =
      e.check context.options.strict >>= fun _ =>
        s.editIf ((e.mark? .width).bind Directive.readPositive)
            (fun s width => s.editColumn column fun c => { c with width := some width }) >>= fun s =>
          s.editIf (if e.attribute? Mark.hidden.name = some "true" then some true else none)
              (fun s hidden => s.editColumn column fun c => { c with hidden }) >>= fun s =>
            match e.mark? .namedStyle with
            | some name =>
                liftStyle (context.catalogue.named name) >>= fun style =>
                  liftSheet (s.styleWholeColumn column style).toExcept
            | none => .ok s := by
  rw [withColumn]
  refine bind_congr fun _ => ?_
  by_cases hhidden : e.attribute? Mark.hidden.name = some "true"
  · simp only [hhidden, if_true]
    cases (e.mark? .width).bind Directive.readPositive <;> rfl
  · simp only [hhidden, if_false]
    cases (e.mark? .width).bind Directive.readPositive <;> rfl

/-- What the edits of columns and the styling of whole columns keep, the column elements of a
table keep. -/
theorem keeps_withColumn {column : Nat} (hs : P s)
    (hedit : ∀ {s t column f}, P s → s.editColumn column f = .ok t → P t)
    (hstyle : ∀ {s t column style},
      P s → (s.styleWholeColumn column style).toExcept = .ok t → P t)
    (h : s.withColumn context column e = .ok t) : P t := by
  rw [withColumn_eq, check_bind_eq_ok_iff] at h
  obtain ⟨t₁, hwidth, h⟩ := bind_eq_ok_iff.mp h.2
  obtain ⟨t₂, hhidden, h⟩ := bind_eq_ok_iff.mp h
  have h₁ : P t₁ := keeps_editIf hs (fun _ => hedit hs) hwidth
  have h₂ : P t₂ := keeps_editIf h₁ (fun _ => hedit h₁) hhidden
  split at h
  · obtain ⟨style, -, hok⟩ := bind_eq_ok_iff.mp h
    exact hstyle h₂ (liftSheet_eq_ok_iff.mp hok)
  · cases h
    exact h₂

theorem keeps_withColumns {column : Nat} {columns : List Element} (hs : P s)
    (hedit : ∀ {s t column f}, P s → s.editColumn column f = .ok t → P t)
    (hstyle : ∀ {s t column style},
      P s → (s.styleWholeColumn column style).toExcept = .ok t → P t)
    (h : s.withColumns context column columns = .ok t) : P t := by
  induction columns generalizing s column with
  | nil =>
      cases h
      exact hs
  | cons e rest ih =>
      obtain ⟨u, hcolumn, hrest⟩ := bind_eq_ok_iff.mp h
      exact ih (keeps_withColumn hs hedit hstyle hcolumn) hrest

theorem keeps_autosizeColumns {columns : List Nat} (hs : P s)
    (hedit : ∀ {s t column},
      P s → s.editColumn column (fun c => { c with autoSize := true }) = .ok t → P t) :
    P (s.autosizeColumns columns) := by
  rw [autosizeColumns]
  induction columns generalizing s with
  | nil => exact hs
  | cons column rest ih =>
      rw [List.foldl_cons]
      apply ih
      split
      · next h => exact hedit hs h
      · exact hs

theorem keeps_withAutosize (table : Element) (hs : P s)
    (hedit : ∀ {s t column},
      P s → s.editColumn column (fun c => { c with autoSize := true }) = .ok t → P t) :
    P (s.withAutosize table) := by
  rw [withAutosize]
  split
  · exact keeps_autosizeColumns hs hedit
  · exact hs

end Columns

end Sheet

end TableBook
