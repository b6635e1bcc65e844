import TableBook.Proofs.ManyCells

namespace TableBook

variable {x : Binary64}

/-- One threshold, or two. -/
def Condition.thresholds (c : Condition) : List Binary64 := c.first :: c.second?.toList

namespace Style

mutual

/-- The size of the font and the thresholds of the rules, those of their styles included. -/
def numbers : Style → List Binary64
  | ⟨font, _, _, _, _, _, rules⟩ => font.size.toList ++ ruleNumbers rules

def ruleNumbers : List (Condition × Style) → List Binary64
  | [] => []
  | (condition, style) :: rules => condition.thresholds ++ style.numbers ++ ruleNumbers rules

end

theorem numbers_eq (s : Style) : s.numbers = s.font.size.toList ++ ruleNumbers s.rules := by
  cases s
  rw [numbers]

theorem ruleNumbers_append (rules more : List Rule) :
    ruleNumbers (rules ++ more) = ruleNumbers rules ++ ruleNumbers more := by
  induction rules with
  | nil => rfl
  | cons rule rules ih =>
      rw [List.cons_append, ruleNumbers, ruleNumbers, ih, List.append_assoc _ (ruleNumbers rules)]

theorem mem_numbers_merge {base top : Style} (h : x ∈ (base.merge top).numbers) :
    x ∈ base.numbers ∨ x ∈ top.numbers := by
  simp only [numbers_eq, List.mem_append, Option.mem_toList] at h ⊢
  rcases h with hsize | hrules
  · rcases Option.or_eq_some_iff.mp hsize with htop | ⟨-, hbase⟩
    · exact .inr (.inl htop)
    · exact .inl (.inl hbase)
  · rw [merge, ruleNumbers_append, List.mem_append] at hrules
    exact hrules.imp .inr .inr

end Style

def Value.numbers : Value → List Binary64
  | .number x => [x]
  | _ => []

/-- The width and the height that are set. -/
def Comment.numbers (c : Comment) : List Binary64 := c.width.toList ++ c.height.toList

def Cell.numbers (c : Cell) : List Binary64 :=
  c.value.numbers ++ c.comment.toList.flatMap Comment.numbers

theorem Value.numbers_ofFormula (text : String) : (Value.ofFormula text).numbers = [] := by
  rw [ofFormula]
  split <;> rfl

/-- The parts of a sheet that hold numbers. -/
inductive Sheet.Part
  | cells
  | styles
  | columns
  | rows
  | defaultWidth
  | margins

/-- The numbers of an edit, each with the part it is for. -/
inductive Edit.Brings : Edit → Sheet.Part → Binary64 → Prop
  | value {a : Address} {v : Value} {x : Binary64} (h : x ∈ v.numbers) :
      Brings (.value a v) .cells x
  | comment {a : Address} {c : Comment} {x : Binary64} (h : x ∈ c.numbers) :
      Brings (.comment a c) .cells x
  | style {a : Address} {s : Style} {x : Binary64} (h : x ∈ s.numbers) :
      Brings (.style a s) .styles x
  | styleRange {range : Range} {s : Style} {x : Binary64} (h : x ∈ s.numbers) :
      Brings (.styleRange range s) .styles x
  | styleColumn {column : Nat} {s : Style} {x : Binary64} (h : x ∈ s.numbers) :
      Brings (.styleColumn column s) .styles x
  | styleWholeColumn {column : Nat} {s : Style} {x : Binary64} (h : x ∈ s.numbers) :
      Brings (.styleWholeColumn column s) .styles x
  | columnWidth (column : Nat) (width : Binary64) :
      Brings (.columnWidth column width) .columns width
  | rowHeight (row : Nat) (height : Binary64) : Brings (.rowHeight row height) .rows height
  | defaultWidth (width : Binary64) : Brings (.defaultWidth width) .defaultWidth width

namespace Pool

def Holds (pool : Pool) (x : Binary64) : Prop := ∃ style ∈ pool.styles, x ∈ style.numbers

theorem holds_of_mem_style {pool : Pool} {place : Nat} (h : x ∈ (pool.style place).numbers) :
    pool.Holds x := by
  rw [style, get?] at h
  cases hget : pool.styles[place]? with
  | none =>
      rw [hget] at h
      cases h
  | some style =>
      rw [hget] at h
      exact ⟨style, List.mem_of_getElem? hget, h⟩

theorem holds_intern {pool : Pool} {style : Style} (h : (pool.intern style).2.Holds x) :
    pool.Holds x ∨ x ∈ style.numbers := by
  obtain ⟨place, -, -, heq⟩ | ⟨-, heq⟩ := pool.intern_cases style
  · rw [heq] at h
    exact .inl h
  · rw [heq] at h
    obtain ⟨style', hstyle, hx⟩ := h
    rcases List.mem_append.mp hstyle with hold | hnew
    · exact .inl ⟨style', hold, hx⟩
    · exact .inr (List.mem_singleton.mp hnew ▸ hx)

theorem holds_mergeInto {pool : Pool} {base : Nat} {fragment : Style}
    (h : (pool.mergeInto base fragment).2.Holds x) : pool.Holds x ∨ x ∈ fragment.numbers := by
  obtain ⟨-, -, heq⟩ | ⟨place, -, -, heq⟩ | ⟨-, -, heq⟩ := pool.mergeInto_cases base fragment
  · rw [heq] at h
    exact .inl h
  · rw [heq] at h
    exact .inl h
  · rw [heq] at h
    rcases holds_intern h with hold | hnew
    · exact .inl hold
    · exact (Style.mem_numbers_merge hnew).imp_left holds_of_mem_style

end Pool

namespace Sheet

variable {s t u : Sheet} {part : Part} {new : Part → Binary64 → Prop}

def HoldsIn (s : Sheet) (x : Binary64) : Part → Prop
  | .cells => ∃ a c, s.cell? a = some c ∧ x ∈ c.numbers
  | .styles => s.pool.Holds x
  | .columns => ∃ k column, s.columns.get? k = some column ∧ column.width = some x
  | .rows => ∃ k row, s.rows.get? k = some row ∧ row.height = some x
  | .defaultWidth => s.defaultWidth = some x
  | .margins => ∃ m, s.page.margins = some m ∧ x ∈ m.toList

/-- The numbers that a sheet holds and another one does not are new ones. -/
def Gains (s : Sheet) (new : Part → Binary64 → Prop) (t : Sheet) : Prop :=
  ∀ part x, t.HoldsIn x part → s.HoldsIn x part ∨ new part x

namespace Gains

theorem refl (s : Sheet) (new : Part → Binary64 → Prop) : s.Gains new s := fun _ _ => .inl

theorem trans (h : s.Gains new t) (h' : t.Gains new u) : s.Gains new u := by
  intro part x hx
  rcases h' part x hx with hold | hnew
  · exact h part x hold
  · exact .inr hnew

/-- Only one part has changed. -/
theorem of_part (part : Part) (hpart : ∀ x, t.HoldsIn x part → s.HoldsIn x part ∨ new part x)
    (hothers : ∀ other, other ≠ part → ∀ x, t.HoldsIn x other → s.HoldsIn x other) :
    s.Gains new t := by
  intro other x hx
  by_cases hother : other = part
  · subst hother
    exact hpart x hx
  · exact .inl (hothers other hother x hx)

theorem ofExcept {result : Except SheetFault Sheet} (h : ∀ t, result = .ok t → s.Gains new t) :
    s.Gains new (Attempt.ofExcept s result).sheet := by
  cases result with
  | ok t => exact h t rfl
  | error fault => exact refl s new

theorem andThen {attempt : Attempt} {next : Sheet → Attempt} (h : s.Gains new attempt.sheet)
    (hnext : ∀ t : Sheet, t.Gains new (next t).sheet) :
    s.Gains new (attempt.andThen next).sheet := by
  obtain ⟨t, _ | fault⟩ := attempt
  · exact h.trans (hnext t)
  · exact h

end Gains

section Cell

variable {a : Address} {f : Cell → Cell}

theorem gains_changeCell (hf : ∀ c, ∀ x ∈ (f c).numbers, x ∈ c.numbers ∨ new .cells x) :
    s.Gains new (s.changeCell a f) := by
  refine .of_part .cells ?_ ?_
  · rintro x ⟨b, c, hcell, hx⟩
    rw [cell?_changeCell] at hcell
    split at hcell
    · cases hcell
      refine (hf _ x hx).imp_left fun hold => ?_
      rw [cellOrFresh] at hold
      cases hfresh : s.cell? a with
      | none =>
          rw [hfresh] at hold
          cases hold
      | some c =>
          rw [hfresh] at hold
          exact ⟨a, c, hfresh, hold⟩
    · exact .inl ⟨b, c, hcell, hx⟩
  · intro other hother x h
    cases other with
    | cells => exact absurd rfl hother
    | _ => exact h

theorem gains_editCell (hf : ∀ c, ∀ x ∈ (f c).numbers, x ∈ c.numbers ∨ new .cells x) :
    s.Gains new (Attempt.ofExcept s (s.editCell a f)).sheet := by
  refine .ofExcept ?_
  intro t h
  obtain ⟨-, rfl⟩ := editCell_eq_ok_iff.mp h
  exact gains_changeCell hf

theorem gains_editValue {v : Value} (hf : ∀ c, (f c).value = v ∧ (f c).comment = c.comment)
    (hnew : ∀ x ∈ v.numbers, new .cells x) :
    s.Gains new (Attempt.ofExcept s (s.editCell a f)).sheet := by
  refine gains_editCell ?_
  intro c x hx
  rw [Cell.numbers, (hf c).1, (hf c).2] at hx
  rcases List.mem_append.mp hx with hvalue | hcomment
  · exact .inr (hnew x hvalue)
  · exact .inl (List.mem_append_right _ hcomment)

theorem gains_setComment {comment : Comment} (hnew : ∀ x ∈ comment.numbers, new .cells x) :
    s.Gains new (Attempt.ofExcept s (s.setComment a comment)).sheet := by
  refine gains_editCell ?_
  intro c x hx
  rcases List.mem_append.mp hx with hvalue | hcomment
  · exact .inl (List.mem_append_left _ hvalue)
  · rw [Option.toList_some, List.flatMap_singleton] at hcomment
    exact .inr (hnew x hcomment)

end Cell

section Column

variable {column : Nat} {f : Column → Column}

theorem gains_changeColumn
    (hf : ∀ c x, (f c).width = some x → c.width = some x ∨ new .columns x) :
    s.Gains new (s.changeColumn column f) := by
  refine .of_part .columns ?_ ?_
  · rintro x ⟨k, c, hcolumn, hx⟩
    rw [get?_changeColumn] at hcolumn
    split at hcolumn
    · cases hcolumn
      refine (hf _ x hx).imp_left fun hold => ?_
      rw [columnOrFresh] at hold
      cases hfresh : s.columns.get? column with
      | none =>
          rw [hfresh] at hold
          cases hold
      | some c =>
          rw [hfresh] at hold
          exact ⟨column, c, hfresh, hold⟩
    · exact .inl ⟨k, c, hcolumn, hx⟩
  · intro other hother x h
    cases other with
    | columns => exact absurd rfl hother
    | _ => exact h

theorem gains_editColumn
    (hf : ∀ c x, (f c).width = some x → c.width = some x ∨ new .columns x) :
    s.Gains new (Attempt.ofExcept s (s.editColumn column f)).sheet := by
  refine .ofExcept ?_
  intro t h
  obtain ⟨-, rfl⟩ := editColumn_eq_ok_iff.mp h
  exact gains_changeColumn hf

end Column

theorem gains_setRowHeight {row : Nat} {height : Binary64} (hnew : new .rows height)
    (h : s.setRowHeight row height = .ok t) : s.Gains new t := by
  obtain ⟨-, rfl⟩ := setRowHeight_eq_ok_iff.mp h
  refine .of_part .rows ?_ ?_
  · rintro x ⟨k, r, hrow, hx⟩
    rw [Keyed.get?_alter] at hrow
    split at hrow
    · cases hrow
      obtain rfl := Option.some.inj hx
      exact .inr hnew
    · exact .inl ⟨k, r, hrow, hx⟩
  · intro other hother x h
    cases other with
    | rows => exact absurd rfl hother
    | _ => exact h

theorem gains_defaultWidth {width : Binary64} (hnew : new .defaultWidth width) :
    s.Gains new { s with defaultWidth := some width } := by
  refine .of_part .defaultWidth ?_ ?_
  · intro x hx
    obtain rfl := Option.some.inj hx
    exact .inr hnew
  · intro other hother x h
    cases other with
    | defaultWidth => exact absurd rfl hother
    | _ => exact h

section Styles

variable {style : Style} (hnew : ∀ x ∈ style.numbers, new .styles x)

include hnew

theorem gains_withPool (s : Sheet) (base : Nat) :
    s.Gains new (s.withPool (s.pool.mergeInto base style).2) := by
  refine .of_part .styles (fun x hx => (Pool.holds_mergeInto hx).imp_right (hnew x)) ?_
  intro other hother x h
  cases other with
  | styles => exact absurd rfl hother
  | _ => exact h

theorem gains_styleCell (s : Sheet) (a : Address) :
    s.Gains new (Attempt.ofExcept s (s.styleCell a style)).sheet := by
  refine .ofExcept ?_
  intro t h
  obtain ⟨-, rfl⟩ := styleCell_eq_ok_iff.mp h
  exact (gains_withPool hnew s _).trans (gains_changeCell fun _ _ => .inl)

theorem gains_styleCells (s : Sheet) (positions : List Address) :
    s.Gains new (s.styleCells style positions).sheet := by
  induction positions generalizing s with
  | nil => exact .refl s new
  | cons a rest ih => exact (gains_styleCell hnew s a).andThen ih

theorem gains_styleColumn (s : Sheet) (column : Nat) :
    s.Gains new (s.styleColumn column style).sheet := by
  rw [styleColumn_eq]
  exact (gains_withPool hnew s _).trans (gains_editColumn fun _ _ => .inl)

end Styles

theorem gains_merge {m : Merge} (h : s.merge m = .ok t) : s.Gains new t := by
  obtain ⟨-, rfl⟩ := merge_eq_ok_iff.mp h
  exact .refl s new

/-- An edit, whether it succeeds or not, brings no numbers but its own. -/
theorem gains_attempt (s : Sheet) (edit : Edit) : s.Gains edit.Brings (s.attempt edit).sheet := by
  cases edit with
  | value a v => exact gains_editValue (fun _ => ⟨rfl, rfl⟩) fun _ => .value
  | explicitText a text =>
      exact gains_editValue (v := .text text) (fun _ => ⟨rfl, rfl⟩) (List.forall_mem_nil _)
  | formula a text =>
      refine gains_editValue (v := .ofFormula text) (fun _ => ⟨rfl, rfl⟩) ?_
      rw [Value.numbers_ofFormula]
      exact List.forall_mem_nil _
  | link a link => exact gains_editCell fun _ _ => .inl
  | comment a comment => exact gains_setComment fun _ => .comment
  | choices a options => exact gains_editCell fun _ _ => .inl
  | style a style => exact gains_styleCell (fun _ => .style) s a
  | styleRange range style => exact gains_styleCells (fun _ => .styleRange) s _
  | styleColumn column style => exact gains_styleColumn (fun _ => .styleColumn) s column
  | styleWholeColumn column style =>
      have hnew : ∀ x ∈ style.numbers, (Edit.styleWholeColumn column style).Brings .styles x :=
        fun _ => .styleWholeColumn
      exact (gains_styleCells hnew s _).andThen fun t => gains_styleColumn hnew t column
  | columnWidth column width =>
      refine gains_editColumn fun _ x hx => .inr ?_
      obtain rfl := Option.some.inj hx
      exact .columnWidth column width
  | columnHidden column hidden => exact gains_editColumn fun _ _ => .inl
  | columnAutoSize column autoSize => exact gains_editColumn fun _ _ => .inl
  | rowHeight row height => exact .ofExcept fun t => gains_setRowHeight (.rowHeight row height)
  | merge m => exact .ofExcept fun t => gains_merge
  | defaultWidth width => exact gains_defaultWidth (.defaultWidth width)
  | _ => exact .refl s _

end Sheet

end TableBook
