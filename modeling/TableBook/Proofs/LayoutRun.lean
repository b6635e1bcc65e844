import TableBook.Proofs.CellWrite

/-!
A sheet follows the layout rule cell by cell. `Laid` says what a sheet holds
when some cells of a table have their places; writing the next cell past them
keeps it, and the column that is searched for it is the one of the rule.
-/

namespace TableBook

namespace Slot

theorem apart_of_before {t u : Slot} (hbefore : t.address.Before u.address)
    (hcovers : ¬t.Covers u.address)
    (hregions : ∀ m n, t.merge? = some m → u.merge? = some n → t.Apart u) : t.Apart u := by
  cases ht : t.merge? with
  | none =>
      rintro a ⟨hta, hua⟩
      rw [eq_of_merge?_eq_none ht hta] at hua
      exact not_occupies_of_before hbefore hua
  | some m =>
      cases hu : u.merge? with
      | none =>
          rintro a ⟨hta, hua⟩
          rw [eq_of_merge?_eq_none hu hua] at hta
          exact hcovers ⟨hbefore.ne.symm, hta⟩
      | some n => exact hregions m n ht hu

end Slot

open TableFault

namespace Sheet

variable {s t u : Sheet} {slots : List Slot} {context : Context} {cell : Element} {a : Address}

structure SameLayout (s t : Sheet) : Prop where
  grid : t.grid = s.grid
  merges : t.merges = s.merges

theorem SameLayout.refl (s : Sheet) : s.SameLayout s := ⟨rfl, rfl⟩

theorem SameLayout.trans (h : s.SameLayout t) (h' : t.SameLayout u) : s.SameLayout u :=
  ⟨h'.grid.trans h.grid, h'.merges.trans h.merges⟩

/-- The sheet holds the cells of the slots and the regions of their spans, and
nothing else. -/
structure Laid (s : Sheet) (slots : List Slot) : Prop where
  stored : ∀ a, (s.cell? a).isSome = true ↔ a ∈ slots.map Slot.address
  merges : s.merges = slots.filterMap Slot.merge?
  fits : ∀ t ∈ slots, t.Fits
  ordered : slots.Pairwise fun t u => t.address.Before u.address
  apart : slots.Pairwise Slot.Apart

namespace Laid

theorem of_sameLayout (h : s.Laid slots) (hsame : s.SameLayout t) : t.Laid slots where
  stored := by
    intro a
    rw [cell?, hsame.grid]
    exact h.stored a
  merges := by rw [hsame.merges, h.merges]
  fits := h.fits
  ordered := h.ordered
  apart := h.apart

theorem setRowHeight (h : s.Laid slots) {row : Nat} {height : Binary64}
    (hset : s.setRowHeight row height = .ok t) : t.Laid slots := by
  obtain ⟨-, rfl⟩ := setRowHeight_eq_ok_iff.mp hset
  exact h.of_sameLayout ⟨rfl, rfl⟩

theorem coveringMerge?_eq_none_iff (h : s.Laid slots) :
    s.coveringMerge? a = none ↔ ∀ t ∈ slots, ¬t.Covers a := by
  rw [Sheet.coveringMerge?_eq_none_iff, h.merges]
  constructor
  · intro hfree t ht hcovers
    cases hm : t.merge? with
    | none => exact hcovers.1 (Slot.eq_of_merge?_eq_none hm hcovers.2)
    | some m =>
        have hfalse := hfree m (List.mem_filterMap.mpr ⟨t, ht, hm⟩)
        rw [(Slot.covers_iff (h.fits t ht) hm).mpr hcovers] at hfalse
        exact Bool.false_ne_true hfalse.symm
  · intro hfree m hm
    obtain ⟨t, ht, htm⟩ := List.mem_filterMap.mp hm
    rw [Bool.eq_false_iff]
    intro hcovers
    exact hfree t ht ((Slot.covers_iff (h.fits t ht) htm).mp hcovers)

theorem stored_of_wrote (h : s.Laid slots) (hwrote : s.Wrote a t) (b : Address) :
    (t.cell? b).isSome = true ↔ b ∈ (slots ++ [Slot.mk cell a]).map Slot.address := by
  rw [List.map_append, List.mem_append, List.map_singleton, List.mem_singleton]
  by_cases hba : b = a
  · rw [hba]
    exact iff_of_true hwrote.stored (.inr rfl)
  · rw [hwrote.frame b hba, h.stored]
    simp [hba]

theorem fits_of_mergeable (hwrote : s.Wrote a t)
    (hmergeable : ∀ m, (Slot.mk cell a).merge? = some m → t.Mergeable m) :
    (Slot.mk cell a).Fits := by
  have hbounds : a.InBounds := hwrote.writable.1
  cases hm : (Slot.mk cell a).merge? with
  | some m =>
      have h := hmergeable m hm
      exact ⟨hbounds, (Slot.last_le_iff hm).mp ⟨h.row_le, h.column_le⟩⟩
  | none =>
      have hspans : ¬(1 < cell.columnSpan ∨ 1 < cell.rowSpan) := by
        simpa [Slot.merge?] using hm
      obtain ⟨-, hrow, -, hcolumn⟩ := hbounds
      refine ⟨hwrote.writable.1, ?_, ?_⟩
      · change a.row + cell.rowSpan ≤ maxRows + 1
        omega
      · change a.column + cell.columnSpan ≤ maxColumns + 1
        omega

theorem apart_of_mergeable (h : s.Laid slots) (hwrote : s.Wrote a t)
    (hmergeable : ∀ m, (Slot.mk cell a).merge? = some m → t.Mergeable m)
    {slot : Slot} (hslot : slot ∈ slots) (hbefore : slot.address.Before a) :
    slot.Apart ⟨cell, a⟩ := by
  refine Slot.apart_of_before hbefore ?_ ?_
  · exact h.coveringMerge?_eq_none_iff.mp hwrote.writable.2 slot hslot
  · rintro m n hm hn b ⟨hb, hb'⟩
    have hfits : (Slot.mk cell a).Fits := fits_of_mergeable hwrote hmergeable
    have hmem : m ∈ t.merges := by
      rw [hwrote.merges, h.merges]
      exact List.mem_filterMap.mpr ⟨slot, hslot, hm⟩
    have hoverlaps : m.range.overlaps n.range = true := by
      refine Range.overlaps_iff.mpr ⟨b, ?_, ?_⟩
      · exact (Slot.contains_iff_occupies (h.fits slot hslot) hm).mpr hb
      · exact (Slot.contains_iff_occupies hfits hn).mpr hb'
    rw [(hmergeable n hn).apart m hmem] at hoverlaps
    exact Bool.false_ne_true hoverlaps

/-- Writing a cell past all earlier ones gives it its slot. -/
theorem placeCell (h : s.Laid slots) (hbefore : ∀ t ∈ slots, t.address.Before a)
    {rowStyle : Option String} (hok : s.placeCell context cell a rowStyle = .ok u) :
    u.Laid (slots ++ [⟨cell, a⟩]) := by
  obtain ⟨t, hwrote, hmergeable, hcells, hmerges⟩ := placeCell_spec hok
  constructor
  · intro b
    rw [hcells]
    exact h.stored_of_wrote hwrote b
  · rw [hmerges, h.merges, List.filterMap_append]
    cases hm : (Slot.mk cell a).merge? <;> simp [hm]
  · intro t ht
    rcases List.mem_append.mp ht with hold | hnew
    · exact h.fits t hold
    · rw [List.mem_singleton.mp hnew]
      exact fits_of_mergeable hwrote hmergeable
  · rw [List.pairwise_append]
    refine ⟨h.ordered, List.pairwise_singleton _ _, ?_⟩
    intro t ht u hu
    rw [List.mem_singleton.mp hu]
    exact hbefore t ht
  · rw [List.pairwise_append]
    refine ⟨h.apart, List.pairwise_singleton _ _, ?_⟩
    intro t ht u hu
    rw [List.mem_singleton.mp hu]
    exact h.apart_of_mergeable hwrote hmergeable ht (hbefore t ht)

end Laid

/-- A cell is written only if all that it takes up lies inside the bounds. -/
theorem fits_of_placeCell {rowStyle : Option String}
    (h : s.placeCell context cell a rowStyle = .ok u) : (Slot.mk cell a).Fits := by
  obtain ⟨t, hwrote, hmergeable, -⟩ := placeCell_spec h
  exact Laid.fits_of_mergeable hwrote hmergeable

theorem le_lastMergedColumn {m : Merge} (h : m ∈ s.merges) :
    m.range.last.column ≤ s.lastMergedColumn := by
  have hfold : ∀ (merges : List Merge) (column : Nat),
      column ≤ merges.foldl (fun column m => max column m.range.last.column) column ∧
        ∀ m ∈ merges, m.range.last.column ≤
          merges.foldl (fun column m => max column m.range.last.column) column := by
    intro merges
    induction merges with
    | nil => simp
    | cons first rest ih =>
        intro column
        obtain ⟨hstart, hrest⟩ := ih (max column first.range.last.column)
        rw [List.foldl_cons]
        refine ⟨(Nat.le_max_left _ _).trans hstart, ?_⟩
        intro m hm
        rcases List.mem_cons.mp hm with rfl | hm
        · exact (Nat.le_max_right _ _).trans hstart
        · exact hrest m hm
  exact (hfold s.merges 0).2 m h

/-- A search passes over covered columns only, and ends at a free one or after
its last try. -/
theorem uncoveredWithin_spec (s : Sheet) (row tries column : Nat) :
    column ≤ s.uncoveredWithin row tries column ∧
      (∀ k, column ≤ k → k < s.uncoveredWithin row tries column →
        s.coveringMerge? ⟨row, k⟩ ≠ none) ∧
      (s.coveringMerge? ⟨row, s.uncoveredWithin row tries column⟩ = none ∨
        s.uncoveredWithin row tries column = column + tries) := by
  induction tries generalizing column with
  | zero =>
      refine ⟨Nat.le_refl _, ?_, .inr rfl⟩
      intro k hk hlt
      exact absurd hlt (Nat.not_lt.mpr hk)
  | succ tries ih =>
      rw [uncoveredWithin]
      split
      · next hcovered =>
          obtain ⟨hle, hpassed, hend⟩ := ih (column + 1)
          refine ⟨Nat.le_of_succ_le hle, ?_, ?_⟩
          · intro k hk hlt
            rcases Nat.lt_or_eq_of_le hk with hnext | rfl
            · exact hpassed k hnext hlt
            · exact Option.isSome_iff_ne_none.mp hcovered
          · apply hend.imp_right
            intro heq
            rw [heq]
            omega
      · next hfree =>
          refine ⟨Nat.le_refl _, ?_, .inl ?_⟩
          · intro k hk hlt
            exact absurd hlt (Nat.not_lt.mpr hk)
          · exact Option.not_isSome_iff_eq_none.mp hfree

theorem firstUncovered_isLeast (s : Sheet) (row column : Nat) :
    IsLeast {k | column ≤ k ∧ s.coveringMerge? ⟨row, k⟩ = none} (s.firstUncovered row column) := by
  obtain ⟨hle, hpassed, hend⟩ :=
    s.uncoveredWithin_spec row (s.lastMergedColumn + 1 - column) column
  refine ⟨⟨hle, ?_⟩, ?_⟩
  · rcases hend with hfree | hlast
    · exact hfree
    · -- All tries are used up, so the search has left every region behind.
      rw [coveringMerge?_eq_none_iff]
      intro m hm
      rw [Bool.eq_false_iff]
      intro hcovers
      obtain ⟨-, -, hcolumn⟩ := Range.contains_iff.mp (Merge.covers_iff.mp hcovers).2
      have hmax := le_lastMergedColumn hm
      change s.firstUncovered row column ≤ m.range.last.column at hcolumn
      rw [firstUncovered, hlast] at hcolumn
      omega
  · rintro k ⟨hk, hfree⟩
    by_contra hlt
    exact hpassed k hk (Nat.not_le.mp hlt) hfree

theorem firstUncovered_eq_self {row column : Nat}
    (hfree : s.coveringMerge? ⟨row, column⟩ = none) : s.firstUncovered row column = column :=
  (s.firstUncovered_isLeast row column).unique ⟨⟨Nat.le_refl _, hfree⟩, fun _ hk => hk.1⟩

theorem firstUncovered_eq_succ {row column : Nat}
    (hcovered : s.coveringMerge? ⟨row, column⟩ ≠ none) :
    s.firstUncovered row column = s.firstUncovered row (column + 1) := by
  obtain ⟨⟨hle, hfree⟩, hleast⟩ := s.firstUncovered_isLeast row (column + 1)
  refine (s.firstUncovered_isLeast row column).unique ⟨⟨Nat.le_of_succ_le hle, hfree⟩, ?_⟩
  rintro k ⟨hk, hkfree⟩
  have hne : column ≠ k := by
    rintro rfl
    exact hcovered hkfree
  exact hleast ⟨Nat.lt_of_le_of_ne hk hne, hkfree⟩

def columnFor (policy : MergePolicy) (s : Sheet) (row column : Nat) : Nat :=
  match policy with
  | .skipCovered => s.firstUncovered row column
  | .reject => column

theorem Laid.standsAt (h : s.Laid slots) (policy : MergePolicy) (row column : Nat) :
    policy.StandsAt slots row column (columnFor policy s row column) := by
  cases policy with
  | reject => rfl
  | skipCovered =>
      have hleast := s.firstUncovered_isLeast row column
      simp only [h.coveringMerge?_eq_none_iff] at hleast
      exact hleast

/-- The next cell starts past the columns of the last one. -/
theorem before_of_mem_append {earlier : List Slot} {row column : Nat}
    (h : ∀ t ∈ earlier, t.address.Before ⟨row, column⟩) :
    ∀ t ∈ earlier ++ [⟨cell, ⟨row, column⟩⟩],
      t.address.Before ⟨row, column + cell.columnSpan⟩ := by
  intro t ht
  rcases List.mem_append.mp ht with hold | hnew
  · exact (h t hold).of_column_le (Nat.le_add_right _ _)
  · rw [List.mem_singleton.mp hnew]
    exact .inr ⟨rfl, Nat.lt_add_of_pos_right cell.columnSpan_pos⟩

theorem row_lt_of_mem_append {earlier slots : List Slot} {row : Nat}
    (h : ∀ t ∈ earlier, t.address.row < row) (hslots : ∀ t ∈ slots, t.address.row = row) :
    ∀ t ∈ earlier ++ slots, t.address.row < row + 1 := by
  intro t ht
  rcases List.mem_append.mp ht with hold | hnew
  · exact Nat.lt_succ_of_lt (h t hold)
  · rw [hslots t hnew]
    exact Nat.lt_succ_self row

theorem placeCells_cons (context : Context) (s : Sheet) (row column : Nat)
    (rowStyle : Option String) (cell : Element) (cells : List Element) :
    s.placeCells context row column rowStyle (cell :: cells) =
      s.placeCell context cell ⟨row, columnFor context.options.policy s row column⟩ rowStyle >>=
        fun t =>
          if columnFor context.options.policy s row column + cell.columnSpan ≤ Merge.lastIndex then
            t.placeCells context row
              (columnFor context.options.policy s row column + cell.columnSpan) rowStyle cells
          else .error (ofSheet (.columnOutOfBounds Merge.lastIndex)) := by
  rw [placeCells]
  cases context.options.policy <;> rfl

theorem placeCells_cons_eq_ok {row column : Nat} {rowStyle : Option String}
    {cells : List Element}
    (h : s.placeCells context row column rowStyle (cell :: cells) = .ok u) :
    ∃ t, s.placeCell context cell ⟨row, columnFor context.options.policy s row column⟩ rowStyle =
        .ok t ∧
      t.placeCells context row
        (columnFor context.options.policy s row column + cell.columnSpan) rowStyle cells =
        .ok u := by
  rw [placeCells_cons] at h
  obtain ⟨t, hcell, hrest⟩ := bind_eq_ok_iff.mp h
  refine ⟨t, hcell, ?_⟩
  split at hrest
  · exact hrest
  · cases hrest

theorem Laid.placeCells {row column : Nat} {rowStyle : Option String} {cells : List Element}
    {earlier : List Slot} (h : s.Laid earlier)
    (hbefore : ∀ t ∈ earlier, t.address.Before ⟨row, column⟩)
    (hok : s.placeCells context row column rowStyle cells = .ok u) :
    ∃ slots, RowLayout context.options.policy row earlier column cells slots ∧
      u.Laid (earlier ++ slots) ∧ ∀ t ∈ slots, t.address.row = row := by
  induction cells generalizing s column earlier with
  | nil =>
      cases hok
      refine ⟨[], .nil, ?_, ?_⟩
      · rw [List.append_nil]
        exact h
      · intro t ht
        exact absurd ht List.not_mem_nil
  | cons cell cells ih =>
      obtain ⟨t, hcell, hrest⟩ := placeCells_cons_eq_ok hok
      have hstands := h.standsAt context.options.policy row column
      generalize columnFor context.options.policy s row column = k at hcell hrest hstands
      have hbefore' : ∀ t ∈ earlier, t.address.Before ⟨row, k⟩ :=
        fun t ht => (hbefore t ht).of_column_le hstands.le
      have hlaid : t.Laid (earlier ++ [⟨cell, ⟨row, k⟩⟩]) := h.placeCell hbefore' hcell
      obtain ⟨slots, hlayout, hslots, hrow⟩ := ih hlaid (before_of_mem_append hbefore') hrest
      refine ⟨⟨cell, ⟨row, k⟩⟩ :: slots, .cons hstands hlayout, ?_, ?_⟩
      · rw [List.append_assoc] at hslots
        exact hslots
      · intro t ht
        rcases List.mem_cons.mp ht with rfl | ht
        · rfl
        · exact hrow t ht

theorem Laid.placeRow {row : Nat} {e : Element} {earlier : List Slot} (h : s.Laid earlier)
    (hbefore : ∀ t ∈ earlier, t.address.row < row)
    (hok : s.placeRow context row e = .ok u) :
    ∃ slots, RowLayout context.options.policy row earlier 1 e.rowCells slots ∧
      u.Laid (earlier ++ slots) ∧ ∀ t ∈ slots, t.address.row = row := by
  rw [Sheet.placeRow, check_bind_eq_ok_iff] at hok
  obtain ⟨t, hheight, hcells⟩ := bind_eq_ok_iff.mp hok.2
  refine Laid.placeCells ?_ ?_ hcells
  · rcases editIf_eq_ok_iff.mp hheight with ⟨-, rfl⟩ | ⟨height, -, hset⟩
    · exact h
    · exact h.setRowHeight hset
  · intro t ht
    exact .inl (hbefore t ht)

theorem Laid.placeRows {row : Nat} {rows : List Element} {earlier : List Slot}
    (h : s.Laid earlier) (hbefore : ∀ t ∈ earlier, t.address.row < row)
    (hok : s.placeRows context row rows = .ok u) :
    ∃ slots, TableLayout context.options.policy earlier row rows slots ∧
      u.Laid (earlier ++ slots) := by
  induction rows generalizing s row earlier with
  | nil =>
      cases hok
      refine ⟨[], .nil, ?_⟩
      rw [List.append_nil]
      exact h
  | cons e rows ih =>
      obtain ⟨t, hrow, hrest⟩ := bind_eq_ok_iff.mp hok
      obtain ⟨slots, hlayout, hslots, hsame⟩ := h.placeRow hbefore hrow
      obtain ⟨later, hlater, hall⟩ := ih hslots (row_lt_of_mem_append hbefore hsame) hrest
      refine ⟨slots ++ later, .cons hlayout hlater, ?_⟩
      rw [List.append_assoc] at hall
      exact hall

/-- Something that holds of a sheet and the cells it has so far, and is kept by the
height of a row and extended by the next cell. `IsRow` tells which element stands
in which row. -/
structure Carried (context : Context) (IsRow : Nat → Element → Prop)
    (P : Sheet → List Slot → Prop) : Prop where
  height : ∀ {s t : Sheet} {earlier : List Slot} {row : Nat} {height : Binary64},
    P s earlier → s.setRowHeight row height = .ok t → P t earlier
  cell : ∀ {s t : Sheet} {earlier : List Slot} {row column : Nat} {e cell : Element},
    IsRow row e → cell ∈ e.rowCells → (∀ t ∈ earlier, t.address.Before ⟨row, column⟩) →
      P s earlier → s.placeCell context cell ⟨row, column⟩ (e.mark? .namedStyle) = .ok t →
        P t (earlier ++ [⟨cell, ⟨row, column⟩⟩])

namespace Carried

variable {IsRow : Nat → Element → Prop} {P : Sheet → List Slot → Prop} {earlier : List Slot}
  {e : Element} {row : Nat}

theorem placeCells (hP : Carried context IsRow P) {column : Nat} {cells : List Element}
    (hrow : IsRow row e) (hcells : ∀ cell ∈ cells, cell ∈ e.rowCells)
    (hlayout : RowLayout context.options.policy row earlier column cells slots)
    (hlaid : s.Laid earlier) (hbefore : ∀ t ∈ earlier, t.address.Before ⟨row, column⟩)
    (h : P s earlier)
    (hok : s.placeCells context row column (e.mark? .namedStyle) cells = .ok u) :
    P u (earlier ++ slots) := by
  induction hlayout generalizing s with
  | nil =>
      cases hok
      rw [List.append_nil]
      exact h
  | @cons earlier start k cell cells slots hstands _ ih =>
      obtain ⟨t, hcell, hrest⟩ := placeCells_cons_eq_ok hok
      obtain rfl := hstands.unique (hlaid.standsAt context.options.policy row start)
      rw [List.forall_mem_cons] at hcells
      have hbefore' : ∀ t ∈ earlier, t.address.Before ⟨row, _⟩ :=
        fun t ht => (hbefore t ht).of_column_le hstands.le
      have ht := hP.cell hrow hcells.1 hbefore' h hcell
      rw [← List.singleton_append, ← List.append_assoc]
      exact ih hcells.2 (hlaid.placeCell hbefore' hcell) (before_of_mem_append hbefore') ht hrest

theorem placeRow (hP : Carried context IsRow P) (hrow : IsRow row e)
    (hlayout : RowLayout context.options.policy row earlier 1 e.rowCells slots)
    (hlaid : s.Laid earlier) (hbefore : ∀ t ∈ earlier, t.address.row < row) (h : P s earlier)
    (hok : s.placeRow context row e = .ok u) : P u (earlier ++ slots) := by
  rw [Sheet.placeRow, check_bind_eq_ok_iff] at hok
  obtain ⟨t, hheight, hcells⟩ := bind_eq_ok_iff.mp hok.2
  have hfirst : ∀ t ∈ earlier, t.address.Before ⟨row, 1⟩ := fun t ht => .inl (hbefore t ht)
  rcases editIf_eq_ok_iff.mp hheight with ⟨-, rfl⟩ | ⟨height, -, hset⟩
  · exact hP.placeCells hrow (fun _ => id) hlayout hlaid hfirst h hcells
  · exact hP.placeCells hrow (fun _ => id) hlayout (hlaid.setRowHeight hset) hfirst
      (hP.height h hset) hcells

/-- What each cell extends holds of all cells once the rows are placed. -/
theorem placeRows (hP : Carried context IsRow P) {rows : List Element}
    (hlayout : TableLayout context.options.policy earlier row rows slots)
    (hlaid : s.Laid earlier) (hrows : ∀ i e, rows[i]? = some e → IsRow (row + i) e)
    (hbefore : ∀ t ∈ earlier, t.address.row < row) (h : P s earlier)
    (hok : s.placeRows context row rows = .ok u) : P u (earlier ++ slots) := by
  induction hlayout generalizing s with
  | nil =>
      cases hok
      rw [List.append_nil]
      exact h
  | @cons earlier row e rows slots later hlayout _ ih =>
      obtain ⟨t, hrow, hrest⟩ := bind_eq_ok_iff.mp hok
      obtain ⟨slots', hlayout', hlaid', hsame⟩ := hlaid.placeRow hbefore hrow
      obtain rfl := hlayout.unique hlayout'
      have ht := hP.placeRow (hrows 0 e rfl) hlayout hlaid hbefore h hrow
      rw [← List.append_assoc]
      refine ih hlaid' ?_ (row_lt_of_mem_append hbefore hsame) ht hrest
      intro i e' he'
      rw [Nat.add_right_comm]
      exact hrows (i + 1) e' he'

end Carried

end Sheet

end TableBook
