namespace TableBook.Text

/-- The parts of a text between the separators; there is one more part than
there are separators. -/
def pieces (separator : Char) : List Char → List (List Char)
  | [] => [[]]
  | c :: cs =>
      if c = separator then [] :: pieces separator cs
      else match pieces separator cs with
        | [] => [[c]]
        | piece :: rest => (c :: piece) :: rest

/-- The text in which the given parts stand between separators. -/
def join (separator : List Char) : List (List Char) → List Char
  | [] => []
  | [piece] => piece
  | piece :: rest => piece ++ separator ++ join separator rest

/-- The text before and after the first separator. -/
def cut (separator : Char) : List Char → Option (List Char × List Char)
  | [] => none
  | c :: cs =>
      if c = separator then some ([], cs)
      else (cut separator cs).map fun parts => (c :: parts.1, parts.2)

/-- The text after `lead`, if the text starts with it. -/
def after (lead : String) (cs : List Char) : Option (List Char) :=
  if lead.toList.isPrefixOf cs then some (cs.drop lead.toList.length) else none

theorem pieces_ne_nil (separator : Char) (cs : List Char) : pieces separator cs ≠ [] := by
  cases cs with
  | nil => simp [pieces]
  | cons c cs =>
      simp only [pieces]
      split
      · simp
      · split <;> simp

theorem join_cons (separator piece : List Char) {rest : List (List Char)} (h : rest ≠ []) :
    join separator (piece :: rest) = piece ++ separator ++ join separator rest := by
  cases rest with
  | nil => exact absurd rfl h
  | cons next rest => rfl

theorem separator_notMem_of_mem_pieces {separator : Char} {cs piece : List Char}
    (h : piece ∈ pieces separator cs) : separator ∉ piece := by
  induction cs generalizing piece with
  | nil => simp_all [pieces]
  | cons c cs ih =>
      simp only [pieces] at h
      split at h
      · rcases List.mem_cons.mp h with rfl | h
        · simp
        · exact ih h
      · next hc =>
          split at h
          · obtain rfl := List.mem_singleton.mp h
            rw [List.mem_singleton]
            exact fun h => hc h.symm
          · next first rest heq =>
              rcases List.mem_cons.mp h with rfl | h
              · have hfirst : separator ∉ first := ih (by simp [heq])
                simp only [List.mem_cons, not_or]
                exact ⟨fun h => hc h.symm, hfirst⟩
              · exact ih (by simp [heq, h])

theorem cut_eq_none_iff {separator : Char} {cs : List Char} :
    cut separator cs = none ↔ separator ∉ cs := by
  induction cs with
  | nil => simp [cut]
  | cons c cs ih =>
      by_cases h : c = separator
      · simp [cut, h]
      · simp only [cut, h, if_false, Option.map_eq_none_iff, ih, List.mem_cons, not_or]
        exact ⟨fun hcs => ⟨fun h' => h h'.symm, hcs⟩, fun h' => h'.2⟩

theorem eq_append_of_cut {separator : Char} {cs before after : List Char}
    (h : cut separator cs = some (before, after)) : cs = before ++ separator :: after := by
  induction cs generalizing before with
  | nil => simp [cut] at h
  | cons c cs ih =>
      by_cases hc : c = separator
      · simp only [cut, hc, if_true, Option.some.injEq, Prod.mk.injEq] at h
        simp [← h.1, ← h.2, hc]
      · simp only [cut, hc, if_false, Option.map_eq_some_iff, Prod.mk.injEq] at h
        obtain ⟨⟨first, last⟩, hcut, rfl, rfl⟩ := h
        simp [ih hcut]

theorem notMem_of_cut {separator : Char} {cs before after : List Char}
    (h : cut separator cs = some (before, after)) : separator ∉ before := by
  induction cs generalizing before with
  | nil => simp [cut] at h
  | cons c cs ih =>
      by_cases hc : c = separator
      · simp only [cut, hc, if_true, Option.some.injEq, Prod.mk.injEq] at h
        simp [← h.1]
      · simp only [cut, hc, if_false, Option.map_eq_some_iff, Prod.mk.injEq] at h
        obtain ⟨⟨first, last⟩, hcut, rfl, rfl⟩ := h
        rw [List.mem_cons, not_or]
        exact ⟨Ne.symm hc, ih hcut⟩

theorem cut_append {separator : Char} {before rest : List Char} (h : separator ∉ before) :
    cut separator (before ++ separator :: rest) = some (before, rest) := by
  induction before with
  | nil => simp [cut]
  | cons c before ih =>
      rw [List.mem_cons, not_or] at h
      simp [cut, Ne.symm h.1, ih h.2]

theorem after_eq_some_iff {lead : String} {cs rest : List Char} :
    after lead cs = some rest ↔ cs = lead.toList ++ rest := by
  rw [after]
  constructor
  · intro h
    split at h
    · next hlead =>
        obtain ⟨tail, rfl⟩ := List.isPrefixOf_iff_prefix.mp hlead
        rw [List.drop_left, Option.some.injEq] at h
        rw [h]
    · cases h
  · rintro rfl
    rw [if_pos (List.isPrefixOf_iff_prefix.mpr (List.prefix_append _ _)), List.drop_left]

end TableBook.Text
