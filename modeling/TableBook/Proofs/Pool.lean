import TableBook.Style.Pool

namespace TableBook

theorem getElem?_concat_eq_some_iff {α : Type} {l : List α} {x y : α} {i : Nat} :
    (l ++ [x])[i]? = some y ↔ l[i]? = some y ∨ (i = l.length ∧ x = y) := by
  rcases Nat.lt_trichotomy i l.length with hlt | rfl | hgt
  · rw [List.getElem?_append_left hlt]
    simp [Nat.ne_of_lt hlt]
  · simp
  · rw [List.getElem?_eq_none (by simp; omega), List.getElem?_eq_none (by omega)]
    simp [Nat.ne_of_gt hgt]

namespace Pool

theorem shares_iff {s t : Style} : shares s t = true ↔ s.hasNan = false ∧ s = t := by
  simp [shares]

theorem get?_eq_some_style {pool : Pool} {place : Nat} (h : place < pool.size) :
    pool.get? place = some (pool.style place) := by
  have hget : pool.get? place = some pool.styles[place] := List.getElem?_eq_getElem h
  rw [style, hget, Option.getD_some]

theorem style_of_size_le {pool : Pool} {place : Nat} (h : pool.size ≤ place) :
    pool.style place = {} := by
  have hget : pool.get? place = none := List.getElem?_eq_none h
  rw [style, hget, Option.getD_none]

theorem lt_size_of_get? {pool : Pool} {place : Nat} {s : Style}
    (h : pool.get? place = some s) : place < pool.size :=
  (List.getElem?_eq_some_iff.mp h).1

theorem style_of_get? {pool : Pool} {place : Nat} {s : Style}
    (h : pool.get? place = some s) : pool.style place = s := by
  rw [style, h, Option.getD_some]

/-- The entries of `pool` come first in `later`. -/
def GrowsTo (pool later : Pool) : Prop := pool.styles <+: later.styles

namespace GrowsTo

theorem refl (pool : Pool) : pool.GrowsTo pool := List.prefix_refl _

theorem trans {a b c : Pool} (h : a.GrowsTo b) (h' : b.GrowsTo c) : a.GrowsTo c :=
  List.IsPrefix.trans h h'

theorem size_le {pool later : Pool} (h : pool.GrowsTo later) : pool.size ≤ later.size :=
  List.IsPrefix.length_le h

theorem get? {pool later : Pool} (h : pool.GrowsTo later) {place : Nat} {s : Style}
    (hs : pool.get? place = some s) : later.get? place = some s :=
  List.prefix_iff_getElem?.mp h place (lt_size_of_get? hs) |>.trans
    ((List.getElem?_eq_getElem (lt_size_of_get? hs)).symm.trans hs)

theorem style_eq {pool later : Pool} (h : pool.GrowsTo later) {place : Nat}
    (hplace : place < pool.size) : later.style place = pool.style place :=
  style_of_get? (h.get? (get?_eq_some_style hplace))

end GrowsTo

/-- A style is found, or it is put at the end. -/
theorem intern_cases (pool : Pool) (s : Style) :
    (∃ place, s.hasNan = false ∧ pool.get? place = some s ∧ pool.intern s = (place, pool)) ∨
      ((s.hasNan = false → ∀ place, pool.get? place ≠ some s) ∧
        pool.intern s = (pool.size, { pool with styles := pool.styles ++ [s] })) := by
  cases hfind : pool.styles.findIdx? (shares s) with
  | some place =>
      obtain ⟨hlt, hshares, -⟩ := List.findIdx?_eq_some_iff_getElem.mp hfind
      obtain ⟨hnan, heq⟩ := shares_iff.mp hshares
      refine .inl ⟨place, hnan, ?_, by simp [intern, hfind]⟩
      rw [get?, List.getElem?_eq_getElem hlt, heq]
  | none =>
      refine .inr ⟨fun hnan place hget => ?_, by simp [intern, hfind]⟩
      have hmem : s ∈ pool.styles := List.mem_of_getElem? hget
      have hnot := List.findIdx?_eq_none_iff.mp hfind s hmem
      rw [shares_iff.mpr ⟨hnan, rfl⟩] at hnot
      exact Bool.noConfusion hnot

theorem intern_growsTo (pool : Pool) (s : Style) : pool.GrowsTo (pool.intern s).2 := by
  obtain ⟨_, -, -, heq⟩ | ⟨-, heq⟩ := pool.intern_cases s
  · rw [heq]
    exact .refl pool
  · rw [heq]
    exact List.prefix_append _ _

theorem get?_intern (pool : Pool) (s : Style) :
    (pool.intern s).2.get? (pool.intern s).1 = some s := by
  obtain ⟨_, -, hget, heq⟩ | ⟨-, heq⟩ := pool.intern_cases s
  · rw [heq]
    exact hget
  · rw [heq]
    simp [Pool.get?, size]

theorem merges_intern (pool : Pool) (s : Style) : (pool.intern s).2.merges = pool.merges := by
  obtain ⟨_, -, -, heq⟩ | ⟨-, heq⟩ := pool.intern_cases s <;> rw [heq]

/-- The memory holds a result that a later merge can find. -/
def Remembers (pool : Pool) (base : Nat) (fragment : Style) (place : Nat) : Prop :=
  fragment.hasNan = false ∧ (base, fragment, place) ∈ pool.merges

theorem remembers_of_lookUp? {pool : Pool} {base place : Nat} {fragment : Style}
    (h : pool.lookUp? base fragment = some place) : pool.Remembers base fragment place := by
  obtain ⟨⟨base', fragment', place'⟩, hmem, hentry⟩ := List.exists_of_findSome?_eq_some h
  simp only [Option.ite_none_right_eq_some, Option.some.injEq] at hentry
  obtain ⟨⟨rfl, hshares⟩, rfl⟩ := hentry
  obtain ⟨hnan, rfl⟩ := shares_iff.mp hshares
  exact ⟨hnan, hmem⟩

theorem Remembers.lookUp?_ne_none {pool : Pool} {base place : Nat} {fragment : Style}
    (h : pool.Remembers base fragment place) : pool.lookUp? base fragment ≠ none := by
  intro hnone
  have := List.findSome?_eq_none_iff.mp hnone _ h.2
  simp [shares_iff, h.1] at this

def recompute (pool : Pool) (base : Nat) (fragment : Style) : Nat × Pool :=
  pool.intern ((pool.style base).merge fragment)

def remember (pool : Pool) (base : Nat) (fragment : Style) (place : Nat) : Pool :=
  { pool with merges := pool.merges ++ [(base, fragment, place)] }

/-- All that a merge can do: give the base back, answer from what is remembered,
or merge anew and remember the result. -/
theorem mergeInto_cases (pool : Pool) (base : Nat) (fragment : Style) :
    (fragment = {} ∧ base < pool.size ∧ pool.mergeInto base fragment = (base, pool)) ∨
      (∃ place, ¬(fragment = {} ∧ base < pool.size) ∧ pool.Remembers base fragment place ∧
        pool.mergeInto base fragment = (place, pool)) ∨
      (¬(fragment = {} ∧ base < pool.size) ∧ pool.lookUp? base fragment = none ∧
        pool.mergeInto base fragment =
          ((pool.recompute base fragment).1,
            (pool.recompute base fragment).2.remember base fragment
              (pool.recompute base fragment).1)) := by
  have hknown : (pool.get? base).isSome = true ↔ base < pool.size := by
    simp [Pool.get?, size]
  by_cases hshort : fragment = {} ∧ base < pool.size
  · refine .inl ⟨hshort.1, hshort.2, ?_⟩
    simp [mergeInto, Style.isEmpty, hshort.1, hknown.mpr hshort.2]
  · have hguard : (fragment.isEmpty && (pool.get? base).isSome) = false := by
      rw [Bool.eq_false_iff]
      simpa [Style.isEmpty, hknown] using hshort
    cases hlook : pool.lookUp? base fragment with
    | some place =>
        refine .inr (.inl ⟨place, hshort, remembers_of_lookUp? hlook, ?_⟩)
        simp [mergeInto, hguard, hlook]
    | none =>
        refine .inr (.inr ⟨hshort, rfl, ?_⟩)
        simp [mergeInto, hguard, hlook, recompute, remember]

/-- A merge is right if what is remembered of it is. -/
theorem get?_mergeInto {pool : Pool} {base : Nat} {fragment : Style}
    (h : ¬(fragment = {} ∧ base < pool.size) → ∀ place, pool.Remembers base fragment place →
      pool.get? place = some ((pool.style base).merge fragment)) :
    (pool.mergeInto base fragment).2.get? (pool.mergeInto base fragment).1 =
      some ((pool.style base).merge fragment) := by
  obtain ⟨rfl, hbase, heq⟩ | ⟨place, hlong, hplace, heq⟩ | ⟨-, -, heq⟩ :=
    pool.mergeInto_cases base fragment
  · rw [heq, Style.merge_empty]
    exact get?_eq_some_style hbase
  · rw [heq]
    exact h hlong place hplace
  · rw [heq]
    exact get?_intern pool _

theorem get?_mergeInto_of_remembers {pool : Pool} {base place : Nat} {fragment s : Style}
    (hlong : ¬(fragment = {} ∧ base < pool.size)) (hplace : pool.Remembers base fragment place)
    (h : ∀ place, pool.Remembers base fragment place → pool.get? place = some s) :
    (pool.mergeInto base fragment).2.get? (pool.mergeInto base fragment).1 = some s := by
  obtain ⟨hempty, hbase, -⟩ | ⟨place', -, hplace', heq⟩ | ⟨-, hnone, -⟩ :=
    pool.mergeInto_cases base fragment
  · exact absurd ⟨hempty, hbase⟩ hlong
  · rw [heq]
    exact h place' hplace'
  · exact absurd hnone hplace.lookUp?_ne_none

theorem mergeInto_growsTo (pool : Pool) (base : Nat) (fragment : Style) :
    pool.GrowsTo (pool.mergeInto base fragment).2 := by
  obtain ⟨-, -, h⟩ | ⟨_, -, -, h⟩ | ⟨-, -, h⟩ := pool.mergeInto_cases base fragment
  · rw [h]
    exact .refl pool
  · rw [h]
    exact .refl pool
  · rw [h]
    exact pool.intern_growsTo _

theorem mem_merges_mergeInto {pool : Pool} {base : Nat} {fragment : Style}
    {entry : Nat × Style × Nat} (h : entry ∈ (pool.mergeInto base fragment).2.merges) :
    entry ∈ pool.merges ∨ entry = (base, fragment, (pool.mergeInto base fragment).1) := by
  obtain ⟨-, -, heq⟩ | ⟨_, -, -, heq⟩ | ⟨-, -, heq⟩ := pool.mergeInto_cases base fragment
  · rw [heq] at h
    exact .inl h
  · rw [heq] at h
    exact .inl h
  · rw [heq] at h ⊢
    simpa [remember, recompute, merges_intern] using h

theorem remembers_mergeInto {pool : Pool} {base base' place : Nat} {fragment fragment' : Style}
    (h : (pool.mergeInto base fragment).2.Remembers base' fragment' place) :
    pool.Remembers base' fragment' place ∨
      ((base' = base ∧ fragment' = fragment) ∧ pool.lookUp? base fragment = none ∧
        (pool.mergeInto base fragment).2.get? place =
          some ((pool.style base).merge fragment)) := by
  obtain ⟨-, -, heq⟩ | ⟨_, -, -, heq⟩ | ⟨-, hnone, heq⟩ := pool.mergeInto_cases base fragment
  · rw [heq] at h
    exact .inl h
  · rw [heq] at h
    exact .inl h
  · obtain ⟨hnan, hmem⟩ := h
    rw [heq] at hmem
    simp only [remember, recompute, merges_intern, List.mem_append, List.mem_singleton,
      Prod.mk.injEq] at hmem
    rcases hmem with hmem | ⟨rfl, rfl, rfl⟩
    · exact .inl ⟨hnan, hmem⟩
    · refine .inr ⟨⟨rfl, rfl⟩, hnone, ?_⟩
      rw [heq]
      exact get?_intern pool _

theorem remembers_mergeInto_of_remembers {pool : Pool} {base base' place : Nat}
    {fragment fragment' : Style} (h : pool.Remembers base' fragment' place) :
    (pool.mergeInto base fragment).2.Remembers base' fragment' place := by
  obtain ⟨-, -, heq⟩ | ⟨_, -, -, heq⟩ | ⟨-, -, heq⟩ := pool.mergeInto_cases base fragment
  · exact heq ▸ h
  · exact heq ▸ h
  · rw [heq]
    refine ⟨h.1, ?_⟩
    simp [remember, recompute, merges_intern, h.2]

theorem exists_remembers_mergeInto {pool : Pool} {base : Nat} {fragment : Style}
    (hnan : fragment.hasNan = false) (hbase : pool.size ≤ base) :
    ∃ place, (pool.mergeInto base fragment).2.Remembers base fragment place := by
  obtain ⟨-, hlt, -⟩ | ⟨place, -, hplace, heq⟩ | ⟨-, -, heq⟩ := pool.mergeInto_cases base fragment
  · exact absurd hlt (Nat.not_lt.mpr hbase)
  · exact ⟨place, heq ▸ hplace⟩
  · refine ⟨(pool.recompute base fragment).1, hnan, ?_⟩
    rw [heq]
    simp [remember]

/-- Every remembered merge gives the style of its base with the fragment on top,
apart from the `early` ones, onto a place that was not there yet. They give the
bare fragment. -/
structure Faithful (early : Nat → Style → Prop) (pool : Pool) : Prop where
  early_answer : ∀ {base fragment place}, pool.Remembers base fragment place →
    early base fragment → pool.get? place = some fragment
  base_lt : ∀ {base fragment place}, pool.Remembers base fragment place →
    ¬early base fragment → base < pool.size
  answer : ∀ {base fragment place}, pool.Remembers base fragment place →
    ¬early base fragment → pool.get? place = some ((pool.style base).merge fragment)

namespace Faithful

variable {early : Nat → Style → Prop} {pool : Pool} {base : Nat} {fragment : Style}

theorem new : Faithful early Pool.new := by
  constructor <;> intro _ _ _ h <;> simp [Remembers, Pool.new] at h

theorem intern (h : Faithful early pool) (s : Style) : Faithful early (pool.intern s).2 := by
  have hgrows := pool.intern_growsTo s
  have hold {base fragment place} (hr : (pool.intern s).2.Remembers base fragment place) :
      pool.Remembers base fragment place := ⟨hr.1, merges_intern pool s ▸ hr.2⟩
  constructor
  · intro base fragment place hr he
    exact hgrows.get? (h.early_answer (hold hr) he)
  · intro base fragment place hr he
    exact Nat.lt_of_lt_of_le (h.base_lt (hold hr) he) hgrows.size_le
  · intro base fragment place hr he
    rw [hgrows.style_eq (h.base_lt (hold hr) he)]
    exact hgrows.get? (h.answer (hold hr) he)

/-- A merge keeps the memory faithful if it counts as early exactly when its base
is not there. -/
theorem mergeInto (h : Faithful early pool)
    (hnew : pool.lookUp? base fragment = none → fragment.hasNan = false →
      (early base fragment ↔ pool.size ≤ base)) :
    Faithful early (pool.mergeInto base fragment).2 := by
  have hgrows := pool.mergeInto_growsTo base fragment
  constructor
  · intro base' fragment' place hr he
    obtain hold | ⟨⟨rfl, rfl⟩, hnone, hplace⟩ := remembers_mergeInto hr
    · exact hgrows.get? (h.early_answer hold he)
    · rw [hplace, style_of_size_le ((hnew hnone hr.1).mp he), Style.empty_merge]
  · intro base' fragment' place hr he
    obtain hold | ⟨⟨rfl, rfl⟩, hnone, -⟩ := remembers_mergeInto hr
    · exact Nat.lt_of_lt_of_le (h.base_lt hold he) hgrows.size_le
    · have hlt := Nat.not_le.mp fun hle => he ((hnew hnone hr.1).mpr hle)
      exact Nat.lt_of_lt_of_le hlt hgrows.size_le
  · intro base' fragment' place hr he
    obtain hold | ⟨⟨rfl, rfl⟩, hnone, hplace⟩ := remembers_mergeInto hr
    · rw [hgrows.style_eq (h.base_lt hold he)]
      exact hgrows.get? (h.answer hold he)
    · have hlt := Nat.not_le.mp fun hle => he ((hnew hnone hr.1).mpr hle)
      rw [hplace, hgrows.style_eq hlt]

theorem get?_mergeInto (h : Faithful early pool) (hlate : ¬early base fragment) :
    (pool.mergeInto base fragment).2.get? (pool.mergeInto base fragment).1 =
      some ((pool.style base).merge fragment) :=
  Pool.get?_mergeInto fun _ _ hr => h.answer hr hlate

end Faithful

end Pool

end TableBook
