import Mathlib.Data.List.Pairwise
import TableBook.Proofs.Operation

namespace TableBook.Sheet

/-- What the regions and the stored cells of a sheet owe each other. -/
structure RegionsClear (s : Sheet) : Prop where
  apart : s.merges.Pairwise fun m n => m.range.overlaps n.range = false
  empty : ∀ m ∈ s.merges, ∀ a c, m.covers a = true → s.cell? a = some c → c.value = .null

theorem regionsClear_new (name : String) : (new name).RegionsClear := by
  constructor
  · exact .nil
  · intro m hm
    simp [new] at hm

theorem RegionsClear.change {s t : Sheet} (h : s.RegionsClear) (hchange : s.Change t) :
    t.RegionsClear := by
  cases hchange with
  | @cell a f hwritable =>
      constructor
      · exact h.apart
      · intro m hm b c hcovers hcell
        -- The written position is not covered, so the cell at `b` is an old one.
        have hne : b ≠ a := by
          rintro rfl
          have hfree := coveringMerge?_eq_none_iff.mp hwritable.2 m hm
          rw [hfree] at hcovers
          exact Bool.false_ne_true hcovers
        rw [cell?_changeCell, if_neg hne] at hcell
        exact h.empty m hm b c hcovers hcell
  | pool => exact ⟨h.apart, h.empty⟩
  | column => exact ⟨h.apart, h.empty⟩
  | row => exact ⟨h.apart, h.empty⟩
  | @merge m hm =>
      constructor
      · rw [List.pairwise_append]
        refine ⟨h.apart, List.pairwise_singleton _ _, ?_⟩
        intro other hother m' hm'
        rw [List.mem_singleton.mp hm']
        exact hm.apart other hother
      · intro m' hm' a c hcovers hcell
        rcases List.mem_append.mp hm' with hold | hnew
        · exact h.empty m' hold a c hcovers hcell
        · rw [List.mem_singleton.mp hnew] at hcovers
          exact hm.empty a c hcell hcovers
  | settings => exact ⟨h.apart, h.empty⟩

theorem regionsClear_after (name : String) (operations : List Operation) :
    ((new name).after operations).RegionsClear :=
  invariant_after (fun _ _ hchange h => h.change hchange) (regionsClear_new name) operations

theorem countP_le_one_of_pairwise {α : Type} {p : α → Bool} {l : List α}
    (h : l.Pairwise fun x y => ¬(p x = true ∧ p y = true)) : l.countP p ≤ 1 := by
  induction l with
  | nil => simp
  | cons x rest ih =>
      obtain ⟨hx, hrest⟩ := List.pairwise_cons.mp h
      rw [List.countP_cons]
      split
      · next hp =>
          have hzero : rest.countP p = 0 := by
            rw [List.countP_eq_zero]
            intro y hy hpy
            exact hx y hy ⟨hp, hpy⟩
          omega
      · exact ih hrest

namespace RegionsClear

variable {s : Sheet} {a : Address}

theorem not_shared (h : s.RegionsClear) :
    s.merges.Pairwise fun m n => ∀ a, ¬(m.range.contains a = true ∧ n.range.contains a = true) := by
  apply h.apart.imp
  intro m n hmn a hboth
  rw [Range.overlaps_iff.mpr ⟨a, hboth⟩] at hmn
  exact Bool.false_ne_true hmn.symm

theorem eq_of_contains (h : s.RegionsClear) {m n : Merge} (hm : m ∈ s.merges) (hn : n ∈ s.merges)
    (hma : m.range.contains a = true) (hna : n.range.contains a = true) : m = n := by
  have hsymm : Std.Symm fun m n : Merge => m.range.overlaps n.range = false :=
    ⟨fun m n hmn => by rw [Range.overlaps_comm, hmn]⟩
  by_contra hne
  have hmn := h.apart.forall hm hn hne
  rw [Range.overlaps_iff.mpr ⟨a, hma, hna⟩] at hmn
  exact Bool.false_ne_true hmn.symm

theorem countP_covers_le_one (h : s.RegionsClear) (a : Address) :
    s.merges.countP (·.covers a) ≤ 1 := by
  refine countP_le_one_of_pairwise (h.not_shared.imp ?_)
  rintro m n hmn ⟨hm, hn⟩
  exact hmn a ⟨(Merge.covers_iff.mp hm).2, (Merge.covers_iff.mp hn).2⟩

theorem not_covers_anchor (h : s.RegionsClear) {m n : Merge} (hm : m ∈ s.merges)
    (hn : n ∈ s.merges) : n.covers m.anchor = false := by
  rw [Bool.eq_false_iff]
  intro hcovers
  obtain ⟨hne, hcontains⟩ := Merge.covers_iff.mp hcovers
  exact hne (congrArg Merge.anchor (h.eq_of_contains hm hn m.contains_anchor hcontains))

theorem coveringMerge?_eq_some_iff (h : s.RegionsClear) {m : Merge} :
    s.coveringMerge? a = some m ↔ m ∈ s.merges ∧ m.covers a = true := by
  constructor
  · exact mem_and_covers_of_coveringMerge?
  · rintro ⟨hm, hcovers⟩
    obtain ⟨n, hn⟩ := Option.isSome_iff_exists.mp (isSome_coveringMerge?_iff.mpr ⟨m, hm, hcovers⟩)
    obtain ⟨hmem, hncovers⟩ := mem_and_covers_of_coveringMerge? hn
    rw [hn, h.eq_of_contains hm hmem (Merge.covers_iff.mp hcovers).2
      (Merge.covers_iff.mp hncovers).2]

end RegionsClear

/-- In every state a run of operations reaches, regions share no cell, what they
cover is empty, and a position has one covering region at most, or none if it is
an anchor. The look-up finds the one there is. -/
theorem regions_after (name : String) (operations : List Operation) :
    let s := (new name).after operations
    s.merges.Pairwise
        (fun m n => ∀ a, ¬(m.range.contains a = true ∧ n.range.contains a = true)) ∧
      (∀ m ∈ s.merges, ∀ a c, m.covers a = true → s.cell? a = some c → c.value = .null) ∧
      ∀ a, s.merges.countP (·.covers a) ≤ 1 ∧
        ((∃ m ∈ s.merges, m.anchor = a) → ∀ m ∈ s.merges, m.covers a = false) ∧
        ((s.coveringMerge? a).isSome = true ↔ ∃ m ∈ s.merges, m.covers a = true) ∧
        ∀ m, s.coveringMerge? a = some m ↔ m ∈ s.merges ∧ m.covers a = true := by
  intro s
  have hs : s.RegionsClear := regionsClear_after name operations
  refine ⟨hs.not_shared, hs.empty, ?_⟩
  intro a
  refine ⟨hs.countP_covers_le_one a, ?_, isSome_coveringMerge?_iff, ?_⟩
  · rintro ⟨m, hm, rfl⟩ n hn
    exact hs.not_covers_anchor hm hn
  · intro m
    exact hs.coveringMerge?_eq_some_iff

end TableBook.Sheet
