/-!
Finite maps as lists in ascending order of their keys, so that a map has one
form only. Main statements: `get?_alter` says what an edit does to the map, and
`ext_get?` that the map is what its look-ups answer.
-/

namespace TableBook

structure Keyed (κ α : Type) [Ord κ] where
  entries : List (κ × α)
  ascending : entries.Pairwise fun a b => compare a.1 b.1 = .lt

namespace Keyed

def place {κ α : Type} (k : κ) (v? : Option α) (rest : List (κ × α)) : List (κ × α) :=
  match v? with
  | some v => (k, v) :: rest
  | none => rest

theorem mem_place {κ α : Type} {k : κ} {v? : Option α} {rest : List (κ × α)} {e : κ × α}
    (h : e ∈ place k v? rest) : e.1 = k ∨ e ∈ rest := by
  cases v? <;> simp_all [place]
  rcases h with rfl | h <;> simp_all

variable {κ α : Type} [Ord κ]

@[ext] theorem ext {m n : Keyed κ α} (h : m.entries = n.entries) : m = n := by
  cases m; cases n; simp_all

def empty : Keyed κ α := ⟨[], .nil⟩

instance : EmptyCollection (Keyed κ α) := ⟨empty⟩
instance : Inhabited (Keyed κ α) := ⟨∅⟩

instance [DecidableEq κ] [DecidableEq α] : DecidableEq (Keyed κ α) := fun m n =>
  decidable_of_iff (m.entries = n.entries) ⟨ext, fun h => h ▸ rfl⟩

def isEmpty (m : Keyed κ α) : Bool := m.entries.isEmpty

def size (m : Keyed κ α) : Nat := m.entries.length

def keys (m : Keyed κ α) : List κ := m.entries.map (·.1)

def look (k : κ) : List (κ × α) → Option α
  | [] => none
  | (j, v) :: rest =>
      match compare k j with
      | .lt => none
      | .eq => some v
      | .gt => look k rest

def get? (m : Keyed κ α) (k : κ) : Option α := look k m.entries

def contains (m : Keyed κ α) (k : κ) : Bool := (m.get? k).isSome

def change (k : κ) (f : Option α → Option α) : List (κ × α) → List (κ × α)
  | [] => place k (f none) []
  | (j, v) :: rest =>
      match compare k j with
      | .lt => place k (f none) ((j, v) :: rest)
      | .eq => place j (f (some v)) rest
      | .gt => (j, v) :: change k f rest

theorem mem_change {k : κ} {f : Option α → Option α} {es : List (κ × α)} {e : κ × α}
    (h : e ∈ change k f es) : e.1 = k ∨ ∃ v, (e.1, v) ∈ es := by
  induction es with
  | nil => exact (mem_place h).imp_right (by simp)
  | cons head rest ih =>
      obtain ⟨j, v⟩ := head
      simp only [change] at h
      split at h
      · rcases mem_place h with h | h
        · exact .inl h
        · exact .inr ⟨e.2, h⟩
      · rcases mem_place h with h | h
        · exact .inr ⟨v, by simp [h]⟩
        · exact .inr ⟨e.2, by simp [h]⟩
      · rcases List.mem_cons.mp h with rfl | h
        · exact .inr ⟨v, by simp⟩
        · rcases ih h with h | ⟨w, h⟩
          · exact .inl h
          · exact .inr ⟨w, by simp [h]⟩

theorem ascending_place {k : κ} {v? : Option α} {rest : List (κ × α)}
    (hk : ∀ e ∈ rest, compare k e.1 = .lt)
    (hrest : rest.Pairwise fun a b => compare a.1 b.1 = .lt) :
    (place k v? rest).Pairwise fun a b => compare a.1 b.1 = .lt := by
  cases v? with
  | none => exact hrest
  | some v => exact List.pairwise_cons.mpr ⟨hk, hrest⟩

theorem ascending_change [Std.TransOrd κ] [Std.LawfulEqOrd κ] {k : κ}
    {f : Option α → Option α} {es : List (κ × α)}
    (h : es.Pairwise fun a b => compare a.1 b.1 = .lt) :
    (change k f es).Pairwise fun a b => compare a.1 b.1 = .lt := by
  induction es with
  | nil => exact ascending_place (by simp) .nil
  | cons head rest ih =>
      obtain ⟨j, v⟩ := head
      obtain ⟨hhead, hrest⟩ := List.pairwise_cons.mp h
      simp only [change]
      split
      · next hlt =>
          refine ascending_place ?_ h
          intro e he
          rcases List.mem_cons.mp he with rfl | he
          · exact hlt
          · exact Std.TransCmp.lt_trans hlt (hhead e he)
      · exact ascending_place hhead hrest
      · next hgt =>
          refine List.pairwise_cons.mpr ⟨?_, ih hrest⟩
          intro e he
          rcases mem_change he with hk | ⟨w, he⟩
          · rw [hk]
            exact Std.OrientedCmp.gt_iff_lt.mp hgt
          · exact hhead (e.1, w) he

theorem look_eq_none {k : κ} {es : List (κ × α)}
    (h : ∀ e ∈ es, compare k e.1 = .lt) : look k es = none := by
  cases es with
  | nil => rfl
  | cons head rest => simp [look, h head (by simp)]

section Edits

variable [Std.TransOrd κ] [Std.LawfulEqOrd κ]

/-- Set, change or drop the value of a key. -/
def alter (m : Keyed κ α) (k : κ) (f : Option α → Option α) : Keyed κ α :=
  ⟨change k f m.entries, ascending_change m.ascending⟩

def insert (m : Keyed κ α) (k : κ) (v : α) : Keyed κ α := m.alter k fun _ => some v

/-- The map of a list of pairs, in which a later pair replaces an earlier one. -/
def ofList (pairs : List (κ × α)) : Keyed κ α :=
  pairs.foldl (fun m pair => m.insert pair.1 pair.2) ∅

theorem look_place {k j : κ} {v? : Option α} {rest : List (κ × α)}
    (hk : ∀ e ∈ rest, compare k e.1 = .lt) :
    look j (place k v? rest) =
      if compare j k = .eq then v? else look j rest := by
  cases v? with
  | none =>
      simp only [place]
      split
      · next h =>
          have : j = k := Std.LawfulEqCmp.eq_of_compare h
          exact look_eq_none (this ▸ hk)
      · rfl
  | some v =>
      simp only [place, look]
      cases h : compare j k with
      | lt =>
          simp only [reduceCtorEq, if_false]
          exact (look_eq_none fun e he => Std.TransCmp.lt_trans h (hk e he)).symm
      | eq => simp
      | gt => simp

theorem look_change {k j : κ} {f : Option α → Option α} {es : List (κ × α)}
    (h : es.Pairwise fun a b => compare a.1 b.1 = .lt) :
    look j (change k f es) = if compare j k = .eq then f (look k es) else look j es := by
  induction es with
  | nil => exact look_place (by simp)
  | cons head rest ih =>
      obtain ⟨i, v⟩ := head
      obtain ⟨hhead, hrest⟩ := List.pairwise_cons.mp h
      simp only [change]
      split
      · next hlt =>
          have hbefore : ∀ e ∈ (i, v) :: rest, compare k e.1 = .lt := by
            intro e he
            rcases List.mem_cons.mp he with rfl | he
            · exact hlt
            · exact Std.TransCmp.lt_trans hlt (hhead e he)
          rw [look_place hbefore, look_eq_none hbefore]
      · next heq =>
          have hki : k = i := Std.LawfulEqCmp.eq_of_compare heq
          subst hki
          rw [look_place hhead]
          simp only [look, heq]
          split
          · rfl
          · next hne =>
              cases hjk : compare j k with
              | lt =>
                  exact look_eq_none fun e he => Std.TransCmp.lt_trans hjk (hhead e he)
              | eq => exact absurd hjk hne
              | gt => rfl
      · next hgt =>
          simp only [look, hgt]
          rw [ih hrest]
          cases hji : compare j i with
          | gt => rfl
          | lt =>
              have hjk : compare j k = .lt :=
                Std.TransCmp.lt_trans hji (Std.OrientedCmp.gt_iff_lt.mp hgt)
              simp [hjk]
          | eq =>
              have hij : j = i := Std.LawfulEqCmp.eq_of_compare hji
              subst hij
              have hjk : compare j k = .lt := Std.OrientedCmp.gt_iff_lt.mp hgt
              simp [hjk]

theorem get?_alter [DecidableEq κ] (m : Keyed κ α) (k j : κ) (f : Option α → Option α) :
    (m.alter k f).get? j = if j = k then f (m.get? k) else m.get? j := by
  simp only [get?, alter, look_change m.ascending]
  by_cases h : j = k
  · subst h
    simp [Std.compare_self]
  · have hne : compare j k ≠ .eq := fun heq => h (Std.LawfulEqCmp.eq_of_compare heq)
    simp [h, hne]

theorem get?_insert [DecidableEq κ] (m : Keyed κ α) (k j : κ) (v : α) :
    (m.insert k v).get? j = if j = k then some v else m.get? j :=
  get?_alter ..

theorem get?_eq_some_iff (m : Keyed κ α) (k : κ) (v : α) :
    m.get? k = some v ↔ (k, v) ∈ m.entries := by
  obtain ⟨es, h⟩ := m
  simp only [get?]
  induction es with
  | nil => simp [look]
  | cons head rest ih =>
      obtain ⟨j, w⟩ := head
      obtain ⟨hhead, hrest⟩ := List.pairwise_cons.mp h
      simp only [look]
      cases hkj : compare k j with
      | lt =>
          have hne : k ≠ j := by
            rintro rfl
            simp [Std.compare_self] at hkj
          have hnot : (k, v) ∉ rest := fun hmem => by
            have := Std.TransCmp.lt_trans hkj (hhead _ hmem)
            simp [Std.compare_self] at this
          simp [hne, hnot]
      | eq =>
          have hkj : k = j := Std.LawfulEqCmp.eq_of_compare hkj
          subst hkj
          have hnot : (k, v) ∉ rest := fun hmem => by
            have := hhead _ hmem
            simp [Std.compare_self] at this
          simp [hnot, eq_comm]
      | gt =>
          have hne : k ≠ j := by
            rintro rfl
            simp [Std.compare_self] at hkj
          simp [ih hrest, hne]

theorem mem_entries_alter [DecidableEq κ] {m : Keyed κ α} {k : κ} {f : Option α → Option α}
    {e : κ × α} (h : e ∈ (m.alter k f).entries) :
    e ∈ m.entries ∨ (e.1 = k ∧ f (m.get? k) = some e.2) := by
  rw [← get?_eq_some_iff, get?_alter] at h
  split at h
  · next heq => exact .inr ⟨heq, h⟩
  · exact .inl ((get?_eq_some_iff m e.1 e.2).mp h)

theorem ext_get? {m n : Keyed κ α} (h : ∀ k, m.get? k = n.get? k) : m = n := by
  have hmem : ∀ e, e ∈ m.entries ↔ e ∈ n.entries := by
    rintro ⟨k, v⟩
    rw [← get?_eq_some_iff, ← get?_eq_some_iff, h]
  obtain ⟨es, hes⟩ := m
  obtain ⟨fs, hfs⟩ := n
  simp only at hmem
  clear h
  congr
  induction es generalizing fs with
  | nil =>
      cases fs with
      | nil => rfl
      | cons f fs => exact absurd ((hmem f).mpr (by simp)) (by simp)
  | cons e es ih =>
      cases fs with
      | nil => exact absurd ((hmem e).mp (by simp)) (by simp)
      | cons f fs =>
          obtain ⟨he, hes'⟩ := List.pairwise_cons.mp hes
          obtain ⟨hf, hfs'⟩ := List.pairwise_cons.mp hfs
          have irrefl : ∀ k : κ, compare k k ≠ .lt := by simp [Std.compare_self]
          have heq : e = f := by
            rcases List.mem_cons.mp ((hmem e).mp (by simp)) with h | h
            · exact h
            · rcases List.mem_cons.mp ((hmem f).mpr (by simp)) with h' | h'
              · exact h'.symm
              · exact absurd (Std.TransCmp.lt_trans (hf e h) (he f h')) (irrefl _)
          subst heq
          congr 1
          refine ih hes' fs hfs' fun x => ⟨fun hx => ?_, fun hx => ?_⟩
          · rcases List.mem_cons.mp ((hmem x).mp (by simp [hx])) with rfl | h
            · exact absurd (he x hx) (irrefl _)
            · exact h
          · rcases List.mem_cons.mp ((hmem x).mpr (by simp [hx])) with rfl | h
            · exact absurd (hf x hx) (irrefl _)
            · exact h

end Edits

/-- The entries whose keys lie between two bounds, both included. -/
def between (m : Keyed κ α) (first last : κ) : List (κ × α) :=
  m.entries.filter fun e => (compare first e.1).isLE && (compare e.1 last).isLE

end Keyed

end TableBook
