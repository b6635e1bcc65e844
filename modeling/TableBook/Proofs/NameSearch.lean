import TableBook.Proofs.SheetNames

namespace TableBook.SheetName

open Text

variable {taken existing : List String} {name : String} {n start tries tries' : Nat}
  {result? result?' : Option String}

/-- Trying the numbers from `start` on one after the other comes to a free name, or runs over,
with the last of so many tries. -/
inductive Searches (taken : List String) (name : String) : Nat → Nat → Option String → Prop
  | found {start : Nat} {found : String} (h : tryNumber taken name start = .found found) :
      Searches taken name start 1 (some found)
  | overflow {start : Nat} (h : tryNumber taken name start = .overflow) :
      Searches taken name start 1 none
  | next {start next tries : Nat} {result? : Option String}
      (h : tryNumber taken name start = .next next)
      (hrest : Searches taken name next tries result?) :
      Searches taken name start (tries + 1) result?

theorem Searches.unique (h : Searches taken name start tries result?)
    (h' : Searches taken name start tries' result?') : tries = tries' ∧ result? = result?' := by
  induction h generalizing tries' with
  | found h =>
      cases h' with
      | found h' => exact ⟨rfl, congrArg some (Try.found.inj (h.symm.trans h'))⟩
      | overflow h' => cases h.symm.trans h'
      | next h' => cases h.symm.trans h'
  | overflow h =>
      cases h' with
      | found h' => cases h.symm.trans h'
      | overflow => exact ⟨rfl, rfl⟩
      | next h' => cases h.symm.trans h'
  | next h hrest ih =>
      cases h' with
      | found h' => cases h.symm.trans h'
      | overflow h' => cases h.symm.trans h'
      | next h' hrest' =>
          obtain rfl := Try.next.inj (h.symm.trans h')
          exact ⟨congrArg (· + 1) (ih hrest').1, (ih hrest').2⟩

theorem tryNumber_of_free (h : isTaken taken (numbered name n) = false) :
    tryNumber taken name n = .found (numbered name n) := by
  rw [tryNumber, h]
  rfl

theorem tryNumber_of_taken (h : isTaken taken (numbered name n) = true) (hlt : n < lastNumber) :
    tryNumber taken name n = .next (n + 1) := by
  rw [tryNumber, if_pos h, nextNumber?, if_pos hlt]

theorem tryNumber_lastNumber (h : isTaken taken (numbered name lastNumber) = true) :
    tryNumber taken name lastNumber = .overflow := by
  rw [tryNumber, if_pos h, nextNumber?, if_neg (Nat.lt_irrefl _)]

/-- What the search comes to after so many numbers that are taken is what it comes to from the
next one on. -/
theorem Searches.after_taken (hlast : start + tries ≤ lastNumber)
    (htaken : ∀ k, start ≤ k → k < start + tries → isTaken taken (numbered name k) = true)
    (hrest : Searches taken name (start + tries) tries' result?) :
    Searches taken name start (tries + tries') result? := by
  induction tries generalizing start with
  | zero =>
      rw [Nat.zero_add]
      exact hrest
  | succ tries ih =>
      have hshift : start + (tries + 1) = start + 1 + tries := by omega
      rw [hshift] at hlast htaken hrest
      rw [Nat.add_right_comm]
      refine .next (tryNumber_of_taken (htaken start (by omega) (by omega)) (by omega)) ?_
      refine ih hlast ?_ hrest
      intro k hk
      exact htaken k (by omega)

/-- The search stops at the first free number, unless there is no word for it. -/
theorem searches_of_isLeast (h : IsLeast (freeNumbers existing name) n) :
    Searches (existing.map lowercase) name 2 (min n lastNumber - 1)
      (if n ≤ lastNumber then some (numbered name n) else none) := by
  obtain ⟨⟨hstart, hfree⟩, hleast⟩ := h
  have htaken : ∀ k, 2 ≤ k → k < n →
      isTaken (existing.map lowercase) (numbered name k) = true := by
    intro k hk hlt
    by_contra hnot
    rw [isTaken_map_iff] at hnot
    exact absurd (hleast ⟨hk, hnot⟩) (by omega)
  have htwo : 2 ≤ lastNumber := by decide
  split
  · next hword =>
      obtain ⟨tries, rfl⟩ := Nat.exists_eq_add_of_le hstart
      have htries : min (2 + tries) lastNumber - 1 = tries + 1 := by omega
      rw [htries]
      refine .after_taken hword htaken (.found (tryNumber_of_free ?_))
      rwa [← Bool.not_eq_true, isTaken_map_iff]
  · next hword =>
      obtain ⟨tries, hlast⟩ := Nat.exists_eq_add_of_le htwo
      have htries : min n lastNumber - 1 = tries + 1 := by omega
      rw [htries]
      refine .after_taken hlast.ge (fun k hk _ => htaken k hk (by omega)) (.overflow ?_)
      rw [← hlast]
      exact tryNumber_lastNumber (htaken _ htwo (by omega))

/-- A numbered name is the start of the name, without the blanks that the cut leaves at
its end, and the number in parentheses. -/
theorem exists_numbered_eq (name : String) (n : Nat) :
    ∃ kept : String, numbered name n = kept ++ " (" ++ toString n ++ ")" ∧
      kept.toList <+: name.toList ∧ ∀ c ∈ kept.toList.getLast?, isBlank c = false := by
  refine ⟨String.ofList (trimEnd (name.toList.take (maxLength - (ending n).length))), ?_, ?_, ?_⟩
  · rw [← String.toList_inj, toList_numbered]
    simp [ending]
  · rw [String.toList_ofList]
    exact (prefix_trimEnd _).trans (List.take_prefix _ _)
  · intro c hc
    rw [String.toList_ofList] at hc
    exact isBlank_of_getLast?_trimEnd hc

/-- A name that is free is kept, and a repeated one gets the least number from 2 on
under which it is free, which is no greater than the count of names and two. The name that comes
out differs from all others in more than case. The search for it ends, after one number more than
there are names at most. It has no result only if that number is no word, and any other leaves
the name short enough. -/
theorem dedupe_fresh (hname : name.toList.length ≤ maxLength) (existing : List String) :
    (∀ other ∈ existing, lowercase (dedupe name existing) ≠ lowercase other) ∧
      (existing.length + 2 ≤ lastNumber →
        (dedupe name existing).toList.length ≤ maxLength) ∧
      (lowercase name ∉ existing.map lowercase → dedupe name existing = name) ∧
      (lowercase name ∈ existing.map lowercase →
        ∃ n tries, ∃ kept : String,
          (∀ tries' result?, Searches (existing.map lowercase) name 2 tries' result? ↔
              tries' = tries ∧
                result? = if n ≤ lastNumber then some (dedupe name existing) else none) ∧
            tries ≤ existing.length + 1 ∧ IsLeast (freeNumbers existing name) n ∧
            n ≤ existing.length + 2 ∧
            dedupe name existing = kept ++ " (" ++ toString n ++ ")" ∧
            kept.toList <+: name.toList ∧ ∀ c ∈ kept.toList.getLast?, isBlank c = false) := by
  refine ⟨?_, ?_, dedupe_of_free, ?_⟩
  · intro other hother hsame
    refine lowercase_dedupe_notMem name existing ?_
    rw [hsame]
    exact List.mem_map_of_mem hother
  · intro hcount
    obtain heq | ⟨n, hn, heq⟩ := eq_or_numbered_of_dedupe name existing
    · rwa [heq]
    · rw [heq]
      exact length_numbered_le (hn.trans hcount)
  · intro hrepeated
    obtain ⟨n, hleast, hle, heq⟩ := exists_isLeast_dedupe hrepeated
    obtain ⟨kept, hkept, hprefix, hends⟩ := exists_numbered_eq name n
    have hsearches := searches_of_isLeast hleast
    rw [heq]
    refine ⟨n, min n lastNumber - 1, kept, ?_, by omega, hleast, hle, hkept, hprefix, hends⟩
    intro tries' result?
    constructor
    · exact fun h => h.unique hsearches
    · rintro ⟨rfl, rfl⟩
      exact hsearches

/-- The names that are there look like the ones that are tried, and the cut falls after
a blank. -/
theorem dedupe_fresh_cut :
    let name := "Sales by region and month, 2024"
    let existing := ["SALES BY REGION AND MONTH, 2024", "sales by region and month, (2)"]
    name.toList.length ≤ maxLength ∧ lowercase name ∈ existing.map lowercase ∧
      dedupe name existing = "Sales by region and month, (3)" ∧
      Searches (existing.map lowercase) name 2 2 (some (dedupe name existing)) ∧
      ∀ other ∈ existing, lowercase (dedupe name existing) ≠ lowercase other := by
  intro name existing
  have hlength : name.toList.length ≤ maxLength := by decide +kernel
  have hrepeated : lowercase name ∈ existing.map lowercase := by decide +kernel
  have hresult : dedupe name existing = "Sales by region and month, (3)" := by decide +kernel
  have htwo : isTaken (existing.map lowercase) (numbered name 2) = true := by decide +kernel
  have hthree : isTaken (existing.map lowercase) (numbered name 3) = false := by decide +kernel
  have hnumbered : numbered name 3 = dedupe name existing := by decide +kernel
  refine ⟨hlength, hrepeated, hresult, ?_, (dedupe_fresh hlength existing).1⟩
  rw [← hnumbered]
  exact .next (tryNumber_of_taken htwo (by decide)) (.found (tryNumber_of_free hthree))

end TableBook.SheetName
