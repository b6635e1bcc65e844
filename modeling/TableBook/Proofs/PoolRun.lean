import Mathlib.Data.List.Induction
import Mathlib.Tactic.Set
import TableBook.Proofs.Pool

/-!
Runs of a style pool, and when a remembered merge is out of date: the memory is
keyed by the place of the base, and a place that is not there yet may come to
hold a style later on.
-/

namespace TableBook.Pool

inductive Call
  | intern (s : Style)
  | merge (base : Nat) (fragment : Style)
deriving Repr

def perform (pool : Pool) : Call → Pool
  | .intern s => (pool.intern s).2
  | .merge base fragment => (pool.mergeInto base fragment).2

def after (pool : Pool) (calls : List Call) : Pool := calls.foldl perform pool

theorem after_append_singleton (pool : Pool) (calls : List Call) (call : Call) :
    pool.after (calls ++ [call]) = (pool.after calls).perform call := by
  simp [after]

/-- A fragment was merged onto a place before the place was there. -/
def Premature (calls : List Call) (base : Nat) (fragment : Style) : Prop :=
  ∃ before rest, calls = before ++ .merge base fragment :: rest ∧ (new.after before).size ≤ base

theorem not_premature_nil (base : Nat) (fragment : Style) : ¬Premature [] base fragment := by
  rintro ⟨before, rest, h, -⟩
  simp at h

theorem premature_append_singleton {calls : List Call} {call : Call} {base : Nat}
    {fragment : Style} :
    Premature (calls ++ [call]) base fragment ↔
      Premature calls base fragment ∨
        (call = .merge base fragment ∧ (new.after calls).size ≤ base) := by
  constructor
  · rintro ⟨before, rest, h, hsize⟩
    rcases List.eq_nil_or_concat rest with rfl | ⟨rest', last, rfl⟩
    · obtain ⟨rfl, hcall⟩ := List.append_inj' h rfl
      exact .inr ⟨List.singleton_inj.mp hcall, hsize⟩
    · have h' : calls ++ [call] = (before ++ .merge base fragment :: rest') ++ [last] := by
        simpa using h
      exact .inl ⟨before, rest', (List.append_inj' h' rfl).1, hsize⟩
  · rintro (⟨before, rest, rfl, hsize⟩ | ⟨rfl, hsize⟩)
    · exact ⟨before, rest ++ [call], by simp, hsize⟩
    · exact ⟨calls, [], rfl, hsize⟩

/-- What a run leaves: the merges it made too early are remembered with the bare
fragment, all others with the right style. -/
structure RunInvariant (calls : List Call) (pool : Pool) : Prop where
  faithful : Faithful (Premature calls) pool
  recorded : ∀ {base fragment}, Premature calls base fragment → fragment.hasNan = false →
    ∃ place, pool.Remembers base fragment place

theorem runInvariant_nil : RunInvariant [] new where
  faithful := .new
  recorded h := absurd h (not_premature_nil _ _)

theorem RunInvariant.intern {calls : List Call} (h : RunInvariant calls (new.after calls))
    (s : Style) :
    RunInvariant (calls ++ [.intern s]) (new.after (calls ++ [.intern s])) := by
  have hsame : Premature (calls ++ [.intern s]) = Premature calls := by
    funext base fragment
    simp [premature_append_singleton]
  rw [after_append_singleton]
  constructor
  · rw [hsame]
    exact h.faithful.intern s
  · intro base fragment hearly hnan
    rw [hsame] at hearly
    obtain ⟨place, hr⟩ := h.recorded hearly hnan
    exact ⟨place, hr.1, (merges_intern _ s).symm ▸ hr.2⟩

theorem RunInvariant.merge {calls : List Call} (h : RunInvariant calls (new.after calls))
    (base : Nat) (fragment : Style) :
    RunInvariant (calls ++ [.merge base fragment])
      (new.after (calls ++ [.merge base fragment])) := by
  set pool := new.after calls with hpool
  have hiff {base' fragment'} : Premature (calls ++ [.merge base fragment]) base' fragment' ↔
      Premature calls base' fragment' ∨
        ((base = base' ∧ fragment = fragment') ∧ pool.size ≤ base') := by
    rw [premature_append_singleton, Call.merge.injEq]
  -- No entry changes sides: one for this very merge was made when the base was missing, too.
  have hfaithful : Faithful (Premature (calls ++ [.merge base fragment])) pool := by
    constructor
    · intro base' fragment' place hr he
      by_cases hold : Premature calls base' fragment'
      · exact h.faithful.early_answer hr hold
      · obtain ⟨-, hsize⟩ := (hiff.mp he).resolve_left hold
        exact absurd (h.faithful.base_lt hr hold) (Nat.not_lt.mpr hsize)
    · intro base' fragment' place hr he
      exact h.faithful.base_lt hr fun hold => he (hiff.mpr (.inl hold))
    · intro base' fragment' place hr he
      exact h.faithful.answer hr fun hold => he (hiff.mpr (.inl hold))
  rw [after_append_singleton]
  constructor
  · refine hfaithful.mergeInto fun hnone hnan => ⟨fun he => ?_, fun hsize => ?_⟩
    · rcases hiff.mp he with hold | ⟨-, hsize⟩
      · obtain ⟨place, hr⟩ := h.recorded hold hnan
        exact absurd hnone hr.lookUp?_ne_none
      · exact hsize
    · exact hiff.mpr (.inr ⟨⟨rfl, rfl⟩, hsize⟩)
  · intro base' fragment' he hnan
    rcases hiff.mp he with hold | ⟨⟨rfl, rfl⟩, hsize⟩
    · obtain ⟨place, hr⟩ := h.recorded hold hnan
      exact ⟨place, remembers_mergeInto_of_remembers hr⟩
    · exact exists_remembers_mergeInto hnan hsize

theorem runInvariant (calls : List Call) : RunInvariant calls (new.after calls) := by
  induction calls using List.reverseRecOn with
  | nil => exact runInvariant_nil
  | append_singleton calls call ih =>
      cases call with
      | intern s => exact ih.intern s
      | merge base fragment => exact ih.merge base fragment

/-- The remembered result of a merge is out of date. -/
def Stale (calls : List Call) (base : Nat) (fragment : Style) : Prop :=
  Premature calls base fragment ∧ fragment.hasNan = false ∧ fragment ≠ {} ∧
    base < (new.after calls).size

theorem get?_mergeInto_of_stale {calls : List Call} {base : Nat} {fragment : Style}
    (h : Stale calls base fragment) :
    ((new.after calls).mergeInto base fragment).2.get?
        ((new.after calls).mergeInto base fragment).1 = some fragment := by
  obtain ⟨hearly, hnan, hne, -⟩ := h
  obtain ⟨place, hr⟩ := (runInvariant calls).recorded hearly hnan
  exact get?_mergeInto_of_remembers (fun hempty => hne hempty.1) hr
    fun place hr => (runInvariant calls).faithful.early_answer hr hearly

theorem get?_mergeInto_of_not_stale {calls : List Call} {base : Nat} {fragment : Style}
    (h : ¬Stale calls base fragment) :
    ((new.after calls).mergeInto base fragment).2.get?
        ((new.after calls).mergeInto base fragment).1 =
      some (((new.after calls).style base).merge fragment) := by
  by_cases hearly : Premature calls base fragment
  · refine Pool.get?_mergeInto fun hlong place hr => ?_
    have hanswer := (runInvariant calls).faithful.early_answer hr hearly
    -- The base is still missing: were it there, the entry would be stale.
    have hsize : (new.after calls).size ≤ base := by
      by_contra hlt
      rw [Nat.not_le] at hlt
      exact h ⟨hearly, hr.1, fun hempty => hlong ⟨hempty, hlt⟩, hlt⟩
    rw [hanswer, style_of_size_le hsize, Style.empty_merge]
  · exact (runInvariant calls).faithful.get?_mergeInto hearly

/-- After any run of calls, a merge gives the style of its base with the fragment
on top, unless that very merge was made before the base was there. It then gives
the bare fragment, which is wrong if the base changes anything. -/
theorem mergeInto_transparent_iff (calls : List Call) (base : Nat) (fragment : Style) :
    let pool := new.after calls
    let answer := pool.mergeInto base fragment
    let merged := (pool.style base).merge fragment
    (answer.2.get? answer.1 = some merged ↔ ¬(Stale calls base fragment ∧ merged ≠ fragment)) ∧
      (Stale calls base fragment → answer.2.get? answer.1 = some fragment) := by
  intro pool answer merged
  refine ⟨?_, get?_mergeInto_of_stale⟩
  by_cases h : Stale calls base fragment
  · rw [get?_mergeInto_of_stale h, Option.some.injEq]
    simp [h, eq_comm]
  · simp only [h, false_and, not_false_eq_true, iff_true]
    exact get?_mergeInto_of_not_stale h

/-- Bold merged onto the missing place 2, then italic put there: merging bold
again still gives bold alone. -/
theorem mergeInto_stale_place_two :
    let bold : Style := { font := { bold := some true } }
    let italic : Style := { font := { italic := some true } }
    let pool := new.after [.merge 2 bold, .intern italic]
    let answer := pool.mergeInto 2 bold
    pool.get? 2 = some italic ∧ answer.2.get? answer.1 = some bold ∧
      answer.2.get? answer.1 ≠ some ((pool.style 2).merge bold) := by
  decide

end TableBook.Pool
