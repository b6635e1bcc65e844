import TableBook.Proofs.PoolRun

namespace TableBook.Pool

/-- The style that a call hands over. -/
def Call.style : Call → Style
  | .intern s => s
  | .merge _ fragment => fragment

/-- The place that a call gives back, and the pool it leaves. -/
def answer (pool : Pool) : Call → Nat × Pool
  | .intern s => pool.intern s
  | .merge base fragment => pool.mergeInto base fragment

theorem perform_eq (pool : Pool) (call : Call) : pool.perform call = (pool.answer call).2 := by
  cases call <;> rfl

theorem answer_growsTo (pool : Pool) (call : Call) : pool.GrowsTo (pool.answer call).2 := by
  cases call with
  | intern s => exact pool.intern_growsTo s
  | merge base fragment => exact pool.mergeInto_growsTo base fragment

theorem after_growsTo (pool : Pool) (calls : List Call) : pool.GrowsTo (pool.after calls) := by
  induction calls using List.reverseRecOn with
  | nil => exact .refl pool
  | append_singleton calls call ih =>
      rw [after_append_singleton, perform_eq]
      exact ih.trans (answer_growsTo _ call)

/-- What holds of a pool in every state of a run. -/
structure Sound (pool : Pool) : Prop where
  empty : pool.get? 0 = some {}
  distinct : ∀ {i j s}, s.hasNan = false → pool.get? i = some s → pool.get? j = some s → i = j
  merges_lt : ∀ entry ∈ pool.merges, entry.2.2 < pool.size

namespace Sound

variable {pool : Pool}

theorem new : Sound Pool.new where
  empty := rfl
  distinct _ hi hj := by
    have hi := lt_size_of_get? hi
    have hj := lt_size_of_get? hj
    simp only [size, Pool.new, List.length_singleton] at hi hj
    omega
  merges_lt := by simp [Pool.new]

theorem intern (h : pool.Sound) (s : Style) : (pool.intern s).2.Sound := by
  obtain ⟨place, -, -, heq⟩ | ⟨hnew, heq⟩ := pool.intern_cases s
  · exact heq ▸ h
  · rw [heq]
    have hgrows : pool.GrowsTo { pool with styles := pool.styles ++ [s] } :=
      List.prefix_append _ _
    refine ⟨hgrows.get? h.empty, ?_, fun entry hmem => ?_⟩
    · intro i j t hnan hi hj
      rcases getElem?_concat_eq_some_iff.mp hi with hi | ⟨rfl, rfl⟩ <;>
        rcases getElem?_concat_eq_some_iff.mp hj with hj | ⟨rfl, hs⟩
      · exact h.distinct hnan hi hj
      · exact absurd hi (hs ▸ hnew (hs ▸ hnan) i)
      · exact absurd hj (hnew hnan j)
      · rfl
    · exact Nat.lt_of_lt_of_le (h.merges_lt entry hmem) hgrows.size_le

/-- No call gives back a place that is not there. -/
theorem answer_lt (h : pool.Sound) (call : Call) :
    (pool.answer call).1 < (pool.answer call).2.size := by
  cases call with
  | intern s => exact lt_size_of_get? (pool.get?_intern s)
  | merge base fragment =>
      simp only [answer]
      obtain ⟨-, hlt, heq⟩ | ⟨place, -, hplace, heq⟩ | ⟨-, -, heq⟩ :=
        pool.mergeInto_cases base fragment
      · exact heq ▸ hlt
      · exact heq ▸ h.merges_lt _ hplace.2
      · exact heq ▸ lt_size_of_get? (pool.get?_intern _)

theorem mergeInto (h : pool.Sound) (base : Nat) (fragment : Style) :
    (pool.mergeInto base fragment).2.Sound := by
  have hlt := h.answer_lt (.merge base fragment)
  have hmerges : ∀ entry ∈ (pool.mergeInto base fragment).2.merges,
      entry.2.2 < (pool.mergeInto base fragment).2.size := by
    intro entry hmem
    rcases mem_merges_mergeInto hmem with hmem | rfl
    · exact Nat.lt_of_lt_of_le (h.merges_lt entry hmem) (pool.mergeInto_growsTo _ _).size_le
    · exact hlt
  obtain ⟨-, -, heq⟩ | ⟨_, -, -, heq⟩ | ⟨-, -, heq⟩ := pool.mergeInto_cases base fragment
  · exact heq ▸ h
  · exact heq ▸ h
  · have hintern := h.intern ((pool.style base).merge fragment)
    rw [heq] at hmerges ⊢
    exact ⟨hintern.empty, hintern.distinct, hmerges⟩

theorem after (calls : List Call) : (Pool.new.after calls).Sound := by
  induction calls using List.reverseRecOn with
  | nil => exact new
  | append_singleton calls call ih =>
      rw [after_append_singleton]
      cases call with
      | intern s => exact ih.intern s
      | merge base fragment => exact ih.mergeInto base fragment

/-- A style that is there is found, and nothing is added. -/
theorem intern_eq (h : pool.Sound) {s : Style} {place : Nat} (hnan : s.hasNan = false)
    (hget : pool.get? place = some s) : pool.intern s = (place, pool) := by
  obtain ⟨place', -, hget', heq⟩ | ⟨hnew, -⟩ := pool.intern_cases s
  · rw [heq, h.distinct hnan hget' hget]
  · exact absurd hget (hnew hnan place)

end Sound

theorem mem_style_of_mem_merges {calls : List Call} {entry : Nat × Style × Nat}
    (h : entry ∈ (new.after calls).merges) : entry.2.1 ∈ calls.map Call.style := by
  induction calls using List.reverseRecOn with
  | nil => simp [after, new] at h
  | append_singleton calls call ih =>
      rw [after_append_singleton] at h
      rw [List.map_append, List.mem_append]
      cases call with
      | intern s => exact .inl (ih (merges_intern _ s ▸ h))
      | merge base fragment =>
          rcases mem_merges_mergeInto h with h | rfl
          · exact .inl (ih h)
          · exact .inr (by simp [Call.style])

end TableBook.Pool
