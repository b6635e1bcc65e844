import TableBook.Proofs.DirectRefinement

namespace TableBook.Sheet

variable {s u : Sheet} {a : Address} {c : Cell} {result : Except SheetFault Sheet}

/-- An attempt that writes `c` at `a` if a cell may be written there, and nothing
otherwise. The pool may grow. -/
structure EditsCell (s : Sheet) (a : Address) (c : Cell) (attempt : Attempt) : Prop where
  ok_iff : attempt.fault = none ↔ a.InBounds ∧ ∀ m ∈ s.merges, m.covers a = false
  refused : attempt.fault ≠ none → attempt.sheet = s
  stored : attempt.fault = none → attempt.sheet.cell? a = some c
  others : ∀ b, b ≠ a → attempt.sheet.cell? b = s.cell? b
  frame : attempt.sheet = { s with grid := attempt.sheet.grid, pool := attempt.sheet.pool }
  pool : s.pool.GrowsTo attempt.sheet.pool

/-- An attempt that besides touches no style. -/
structure WritesCell (s : Sheet) (a : Address) (c : Cell) (attempt : Attempt) : Prop
    extends EditsCell s a c attempt where
  pool_eq : attempt.sheet.pool = s.pool
  styleAt : ∀ b, attempt.sheet.styleAt b = s.styleAt b

theorem editsCell_ofExcept (hok : ∀ {t}, result = .ok t ↔ s.Writable a ∧ t = u)
    (hcell : ∀ b, u.cell? b = if b = a then some c else s.cell? b)
    (hframe : u = { s with grid := u.grid, pool := u.pool }) (hpool : s.pool.GrowsTo u.pool) :
    s.EditsCell a c (.ofExcept s result) := by
  have hwritable : s.Writable a ↔ a.InBounds ∧ ∀ m ∈ s.merges, m.covers a = false := by
    rw [Writable, coveringMerge?_eq_none_iff]
  rcases Attempt.ofExcept_cases hok with ⟨ha, hattempt⟩ | ⟨ha, fault, -, hattempt⟩
  · rw [hattempt]
    refine ⟨iff_of_true rfl (hwritable.mp ha), fun h => absurd rfl h, ?_, ?_, hframe, hpool⟩
    · intro _
      exact (hcell a).trans (if_pos rfl)
    · intro b hb
      exact (hcell b).trans (if_neg hb)
  · have hfault : (⟨s, some fault⟩ : Attempt).fault ≠ none := Option.some_ne_none fault
    rw [hattempt]
    exact ⟨iff_of_false hfault (hwritable.not.mp ha), fun _ => rfl, fun h => absurd h hfault,
      fun _ _ => rfl, rfl, .refl s.pool⟩

theorem styleAt_changeCell {f : Cell → Cell} (hf : (f (s.cellOrFresh a)).style = s.stylePlace a)
    (b : Address) : (s.changeCell a f).styleAt b = s.styleAt b := by
  have hplace : (s.changeCell a f).stylePlace b = s.stylePlace b := by
    by_cases hb : b = a
    · subst hb
      rw [stylePlace, cell?_changeCell, if_pos rfl]
      exact hf
    · rw [stylePlace, cell?_changeCell, if_neg hb]
      rfl
  exact congrArg s.pool.style hplace

theorem writesCell_editCell (s : Sheet) (a : Address) (f : Cell → Cell)
    (hf : ∀ c, (f c).style = c.style) :
    s.WritesCell a (f (s.cellOrFresh a)) (.ofExcept s (s.editCell a f)) := by
  have hedits : s.EditsCell a (f (s.cellOrFresh a)) (.ofExcept s (s.editCell a f)) :=
    editsCell_ofExcept editCell_eq_ok_iff (fun b => cell?_changeCell s a b f) rfl (.refl s.pool)
  rcases Attempt.ofExcept_cases editCell_eq_ok_iff with ⟨-, hattempt⟩ | ⟨-, fault, -, hattempt⟩
  · rw [hattempt] at hedits ⊢
    refine ⟨hedits, rfl, styleAt_changeCell ?_⟩
    rw [hf, cellOrFresh_style]
  · rw [hattempt] at hedits ⊢
    exact ⟨hedits, rfl, fun _ => rfl⟩

theorem editsCell_styleCell (s : Sheet) (a : Address) (style : Style) :
    s.EditsCell a { s.cellOrFresh a with style := (s.cellMerge a style).1 }
      (.ofExcept s (s.styleCell a style)) :=
  editsCell_ofExcept styleCell_eq_ok_iff (fun b => cell?_changeCell _ a b _) rfl
    (s.pool.mergeInto_growsTo (s.stylePlace a) style)

/-- The edits of one cell, at every position: what each of them writes, what it keeps of
the cell, and that it changes nothing else. -/
theorem attempt_oneCell (s : Sheet) (a : Address) :
    let c := s.cellOrFresh a
    (∀ v, s.WritesCell a { c with value := v, explicit := false } (s.attempt (.value a v))) ∧
      (∀ text, s.WritesCell a { c with value := .text text, explicit := true }
        (s.attempt (.explicitText a text))) ∧
      (∀ text, s.WritesCell a { c with value := .ofFormula text, explicit := false }
        (s.attempt (.formula a text))) ∧
      (∀ options, s.WritesCell a { c with choices := some (.ofOptions options) }
        (s.attempt (.choices a options))) ∧
      ∀ style, ∃ place, s.EditsCell a { c with style := place } (s.attempt (.style a style)) := by
  intro c
  refine ⟨?_, ?_, ?_, ?_, ?_⟩
  · intro v
    exact s.writesCell_editCell a (·.withValue v) fun _ => rfl
  · intro text
    exact s.writesCell_editCell a (fun c => { c with value := .text text, explicit := true })
      fun _ => rfl
  · intro text
    exact s.writesCell_editCell a (·.withValue (.ofFormula text)) fun _ => rfl
  · intro options
    exact s.writesCell_editCell a (fun c => { c with choices := some (.ofOptions options) })
      fun _ => rfl
  · intro style
    exact ⟨(s.cellMerge a style).1, s.editsCell_styleCell a style⟩

/-- A new cell of a locked column, and one under a region. -/
example :
    let s := (new "Data").after [.edit (.styleColumn 2 { locked := some true }),
      .edit (.merge (.ofSpans ⟨1, 1⟩ 1 2))]
    (s.attempt (.formula ⟨1, 2⟩ "A1")).sheet.cell? ⟨1, 2⟩ =
        some { value := .formula "=A1", style := 1 } ∧
      (s.attempt (.formula ⟨2, 1⟩ "A1")).fault =
        some (.coveredCell ⟨2, 1⟩ (Merge.ofSpans ⟨1, 1⟩ 1 2).range) := by
  decide +kernel

end TableBook.Sheet
