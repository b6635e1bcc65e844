import Mathlib.Data.List.Find
import Mathlib.Logic.Function.Basic
import TableBook.Proofs.PoolEntries
import TableBook.Proofs.StyleEquality

/-!
A style pool that looks its entries up by their hash. Hashes see the bits of a number
while comparison sees its value, so the two tell different styles apart: zeros of
either sign have different hashes but are equal, and what is no number has one hash
but is not equal to itself. As long as no two styles share a hash, a lookup still
finds what a plain search would.
-/

namespace TableBook

/-- A style pool with an index: its entries by their hash, and remembered merges by
their base and the hash of the fragment. -/
structure HashedPool where
  styles : List Style
  places : UInt64 → List Nat
  merges : Nat × UInt64 → List (Style × Nat)

namespace Pool

/-- All styles whose hash a run may take. -/
def hashedStyles (calls : List Call) : List Style :=
  (new.after calls).styles ++ calls.map Call.style

/-- No two different styles of a run have the same hash. -/
def NoClash (hash : Style → UInt64) (calls : List Call) : Prop :=
  ∀ s ∈ hashedStyles calls, ∀ t ∈ hashedStyles calls, hash s = hash t → s = t

instance (hash : Style → UInt64) (calls : List Call) : Decidable (NoClash hash calls) :=
  inferInstanceAs (Decidable (∀ s ∈ hashedStyles calls, ∀ t ∈ hashedStyles calls,
    hash s = hash t → s = t))

theorem hashedStyles_subset (calls : List Call) (call : Call) :
    hashedStyles calls ⊆ hashedStyles (calls ++ [call]) := by
  intro s hs
  rw [hashedStyles, List.mem_append] at hs ⊢
  rw [after_append_singleton, perform_eq]
  refine hs.imp (fun h => (answer_growsTo _ call).subset h) fun h => ?_
  rw [List.map_append]
  exact List.mem_append_left _ h

theorem NoClash.of_append {hash : Style → UInt64} {calls : List Call} {call : Call}
    (h : NoClash hash (calls ++ [call])) : NoClash hash calls := fun s hs t ht =>
  h s (hashedStyles_subset calls call hs) t (hashedStyles_subset calls call ht)

theorem lookUp?_eq_find? (pool : Pool) (base : Nat) (fragment : Style) :
    pool.lookUp? base fragment =
      (pool.merges.find? fun entry => entry.1 = base ∧ shares fragment entry.2.1).map
        (·.2.2) := by
  rw [lookUp?, List.find?_eq_findSome?_guard, List.map_findSome?]
  congr 1
  funext ⟨place, merged, result⟩
  by_cases h : place = base ∧ shares fragment merged = true <;> simp [Option.guard, h]

end Pool

namespace HashedPool

/-- Bits and values tell different styles apart. Where the hash tells all bits, both
together find the styles that may share an entry. -/
theorem alike_iff_shares {hash : Style → UInt64} {s t : Style} (h : hash t = hash s → t = s) :
    hash t = hash s ∧ t.equal s = true ↔ Pool.shares s t = true := by
  rw [Pool.shares_iff]
  constructor
  · rintro ⟨hhash, hequal⟩
    obtain rfl := h hhash
    rw [Style.equal_self] at hequal
    exact ⟨by simpa using hequal, rfl⟩
  · rintro ⟨hnan, rfl⟩
    exact ⟨rfl, by rw [Style.equal_self, hnan]; rfl⟩

variable (hash : Style → UInt64)

def get? (pool : HashedPool) (place : Nat) : Option Style := pool.styles[place]?

def holds (pool : HashedPool) (s : Style) (place : Nat) : Bool :=
  (pool.get? place).any (·.equal s)

def intern (pool : HashedPool) (s : Style) : Nat × HashedPool :=
  match (pool.places (hash s)).find? (pool.holds s) with
  | some place => (place, pool)
  | none =>
      let place := pool.styles.length
      (place,
        { pool with
          styles := pool.styles ++ [s]
          places := Function.update pool.places (hash s) (pool.places (hash s) ++ [place]) })

/-- A pool into which the empty style was put. -/
def new : HashedPool := (intern hash ⟨[], fun _ => [], fun _ => []⟩ {}).2

def lookUp? (pool : HashedPool) (base : Nat) (fragment : Style) : Option Nat :=
  ((pool.merges (base, hash fragment)).find? (·.1.equal fragment)).map Prod.snd

def remember (pool : HashedPool) (base : Nat) (fragment : Style) (place : Nat) : HashedPool :=
  let key := (base, hash fragment)
  { pool with merges := Function.update pool.merges key (pool.merges key ++ [(fragment, place)]) }

def mergeInto (pool : HashedPool) (base : Nat) (fragment : Style) : Nat × HashedPool :=
  if fragment.equal {} && (pool.get? base).isSome then (base, pool)
  else
    match pool.lookUp? hash base fragment with
    | some place => (place, pool)
    | none =>
        let (place, pool) := pool.intern hash (((pool.get? base).getD {}).merge fragment)
        (place, pool.remember hash base fragment place)

def answer (pool : HashedPool) : Pool.Call → Nat × HashedPool
  | .intern s => pool.intern hash s
  | .merge base fragment => pool.mergeInto hash base fragment

def after (pool : HashedPool) (calls : List Pool.Call) : HashedPool :=
  calls.foldl (fun pool call => (pool.answer hash call).2) pool

/-- The index of a hashed pool lists, in ascending order, all that a plain pool would
search through. -/
structure Indexes (hashed : HashedPool) (pool : Pool) : Prop where
  styles : hashed.styles = pool.styles
  places : ∀ code, hashed.places code =
    (pool.styles.zipIdx.filter fun entry => hash entry.1 = code).map Prod.snd
  merges : ∀ base code, hashed.merges (base, code) =
    (pool.merges.filter fun entry => entry.1 = base ∧ hash entry.2.1 = code).map Prod.snd

namespace Indexes

variable {hash} {hashed : HashedPool} {pool : Pool}

theorem get?_eq (h : hashed.Indexes hash pool) (place : Nat) :
    hashed.get? place = pool.get? place := by
  rw [HashedPool.get?, Pool.get?, h.styles]

theorem find?_places (h : hashed.Indexes hash pool) {s : Style}
    (hclash : ∀ t ∈ pool.styles, hash t = hash s → t = s) :
    (hashed.places (hash s)).find? (hashed.holds s) = pool.styles.findIdx? (Pool.shares s) := by
  rw [h.places, List.find?_map, List.find?_filter, List.findIdx?_eq_fst_find?_zipIdx]
  refine congrArg (Option.map _) (List.find?_congr fun (t, place) hmem => ?_)
  have hget : pool.styles[place]? = some t := List.mem_zipIdx_iff_getElem?.mp hmem
  have hholds : hashed.holds s place = t.equal s := by
    simp [holds, HashedPool.get?, h.styles, hget]
  rw [Bool.eq_iff_iff, ← alike_iff_shares (hclash t (List.mem_of_getElem? hget))]
  simp [hholds]

theorem lookUp?_eq (h : hashed.Indexes hash pool) (base : Nat) {fragment : Style}
    (hclash : ∀ entry ∈ pool.merges, hash entry.2.1 = hash fragment → entry.2.1 = fragment) :
    hashed.lookUp? hash base fragment = pool.lookUp? base fragment := by
  rw [lookUp?, h.merges, List.find?_map, List.find?_filter, Pool.lookUp?_eq_find?,
    Option.map_map]
  refine congrArg (Option.map _) (List.find?_congr fun entry hmem => ?_)
  rw [Bool.eq_iff_iff]
  simp only [Function.comp_apply, decide_eq_true_eq, and_assoc,
    alike_iff_shares (hclash entry hmem)]

theorem intern (h : hashed.Indexes hash pool) {s : Style}
    (hclash : ∀ t ∈ pool.styles, hash t = hash s → t = s) :
    (hashed.intern hash s).1 = (pool.intern s).1 ∧
      (hashed.intern hash s).2.Indexes hash (pool.intern s).2 := by
  simp only [HashedPool.intern, Pool.intern, h.find?_places hclash]
  cases pool.styles.findIdx? (Pool.shares s) with
  | some place => exact ⟨rfl, h⟩
  | none =>
      refine ⟨congrArg List.length h.styles, ?_, ?_, h.merges⟩
      · simp [h.styles]
      · intro code
        by_cases hcode : code = hash s
        · subst hcode
          simp [h.places, List.zipIdx_append, h.styles]
        · simp [h.places, List.zipIdx_append, hcode, Ne.symm hcode]

theorem remember (h : hashed.Indexes hash pool) (base : Nat) (fragment : Style) (place : Nat) :
    (hashed.remember hash base fragment place).Indexes hash
      (pool.remember base fragment place) := by
  refine ⟨h.styles, h.places, fun base' code => ?_⟩
  by_cases hkey : base' = base ∧ code = hash fragment
  · obtain ⟨rfl, rfl⟩ := hkey
    simp [HashedPool.remember, Pool.remember, h.merges]
  · have hother : ¬(base = base' ∧ hash fragment = code) := fun heq => hkey ⟨heq.1.symm, heq.2.symm⟩
    simp [HashedPool.remember, Pool.remember, h.merges, hkey, hother]

theorem mergeInto (h : hashed.Indexes hash pool) {base : Nat} {fragment : Style}
    (hmerges : ∀ entry ∈ pool.merges, hash entry.2.1 = hash fragment → entry.2.1 = fragment)
    (hstyles : ∀ s ∈ (pool.mergeInto base fragment).2.styles, ∀ t ∈ pool.styles,
      hash t = hash s → t = s) :
    (hashed.mergeInto hash base fragment).1 = (pool.mergeInto base fragment).1 ∧
      (hashed.mergeInto hash base fragment).2.Indexes hash (pool.mergeInto base fragment).2 := by
  simp only [HashedPool.mergeInto, h.get?_eq, h.lookUp?_eq base hmerges, Style.equal_empty]
  simp only [Pool.mergeInto] at hstyles ⊢
  by_cases hshort : (fragment.isEmpty && (pool.get? base).isSome) = true
  · rw [if_pos hshort, if_pos hshort]
    exact ⟨rfl, h⟩
  · rw [if_neg hshort] at hstyles
    rw [if_neg hshort, if_neg hshort]
    cases hlook : pool.lookUp? base fragment with
    | some place => exact ⟨rfl, h⟩
    | none =>
        rw [hlook] at hstyles
        have hmem := List.mem_of_getElem? (pool.get?_intern ((pool.style base).merge fragment))
        obtain ⟨hplace, hindexes⟩ := h.intern (hstyles _ hmem)
        exact ⟨hplace, hplace ▸ hindexes.remember base fragment _⟩

theorem new : (HashedPool.new hash).Indexes hash Pool.new :=
  have hblank : Indexes hash ⟨[], fun _ => [], fun _ => []⟩ ⟨[], []⟩ :=
    ⟨rfl, fun _ => rfl, fun _ _ => rfl⟩
  (hblank.intern (s := {}) (by simp)).2

/-- One more call on a hashed pool and on the plain one. -/
theorem answer {calls : List Pool.Call} {call : Pool.Call}
    (h : hashed.Indexes hash (Pool.new.after calls))
    (hclash : Pool.NoClash hash (calls ++ [call])) :
    (hashed.answer hash call).1 = ((Pool.new.after calls).answer call).1 ∧
      (hashed.answer hash call).2.Indexes hash (Pool.new.after (calls ++ [call])) := by
  have hold : ∀ t ∈ (Pool.new.after calls).styles, t ∈ Pool.hashedStyles (calls ++ [call]) :=
    fun t ht => Pool.hashedStyles_subset calls call (List.mem_append_left _ ht)
  have hcall : call.style ∈ Pool.hashedStyles (calls ++ [call]) := by
    simp [Pool.hashedStyles]
  rw [Pool.after_append_singleton]
  cases call with
  | intern s => exact h.intern fun t ht => hclash t (hold t ht) s hcall
  | merge base fragment =>
      refine h.mergeInto (fun entry hmem => hclash _ ?_ _ hcall) fun s hs t ht =>
        hclash t (hold t ht) s ?_
      · exact Pool.hashedStyles_subset calls _
          (List.mem_append_right _ (Pool.mem_style_of_mem_merges hmem))
      · refine List.mem_append_left _ ?_
        rw [Pool.after_append_singleton]
        exact hs

theorem after (hash : Style → UInt64) (calls : List Pool.Call)
    (hclash : Pool.NoClash hash calls) :
    ((HashedPool.new hash).after hash calls).Indexes hash (Pool.new.after calls) := by
  induction calls using List.reverseRecOn with
  | nil => exact new
  | append_singleton calls call ih =>
      rw [HashedPool.after, List.foldl_append]
      exact ((ih hclash.of_append).answer hclash).2

theorem merges_lt (h : hashed.Indexes hash pool) (hpool : pool.Sound) {key : Nat × UInt64}
    {hit : Style × Nat} (hmem : hit ∈ hashed.merges key) : hit.2 < hashed.styles.length := by
  rw [h.merges, List.mem_map] at hmem
  obtain ⟨entry, hentry, rfl⟩ := hmem
  rw [h.styles]
  exact hpool.merges_lt entry (List.mem_filter.mp hentry).1

end Indexes

end HashedPool

/-- In every state of a run the empty style is at place 0, a style that holds nothing
but numbers is there once, and no remembered merge has its result at a place that is
not there. A place that was given back keeps its style whatever comes later. A style
that was put in is at its place bit by bit, and putting it in once more, at any time,
finds it there. Looking entries up by their hash changes none of this. -/
theorem Pool.entries_after (calls : List Call) :
    let pool := new.after calls
    pool.get? 0 = some {} ∧
      (∀ i j s, s.hasNan = false → pool.get? i = some s → pool.get? j = some s → i = j) ∧
      (∀ entry ∈ pool.merges, entry.2.2 < pool.size) ∧
      (∀ (call : Call) (later : List Call),
        let place := (pool.answer call).1
        let next := (pool.answer call).2
        let grown := next.after later
        next.styles <+: grown.styles ∧
          (∃ s, next.get? place = some s ∧ grown.get? place = some s) ∧
          ∀ s, call = .intern s →
            grown.get? place = some s ∧ (s.hasNan = false → grown.intern s = (place, grown))) ∧
      ∀ (hash : Style → UInt64) (call : Call), NoClash hash (calls ++ [call]) →
        let hashed := (HashedPool.new hash).after hash calls
        hashed.Indexes hash pool ∧ (hashed.answer hash call).1 = (pool.answer call).1 ∧
          ∀ key, ∀ hit ∈ hashed.merges key, hit.2 < hashed.styles.length := by
  intro pool
  have hsound : pool.Sound := .after calls
  refine ⟨hsound.empty, fun _ _ _ => hsound.distinct, hsound.merges_lt, ?_, ?_⟩
  · intro call later place next grown
    have hgrows : next.GrowsTo grown := next.after_growsTo later
    have hplace := get?_eq_some_style (hsound.answer_lt call)
    refine ⟨hgrows, ⟨_, hplace, hgrows.get? hplace⟩, ?_⟩
    rintro s rfl
    have hget : grown.get? place = some s := hgrows.get? (pool.get?_intern s)
    have hgrown : grown = new.after (calls ++ .intern s :: later) := by
      simp only [grown, next, pool, after, List.foldl_append, List.foldl_cons]
      rfl
    have hsound' : grown.Sound := hgrown ▸ .after _
    exact ⟨hget, fun hnan => hsound'.intern_eq hnan hget⟩
  · intro hash call hclash hashed
    have hindexes : hashed.Indexes hash pool := .after hash calls hclash.of_append
    exact ⟨hindexes, (hindexes.answer hclash).1, fun _ _ hhit => hindexes.merges_lt hsound hhit⟩

/-- Sizes 0 and -0 are equal in value, and what is no number is not equal to itself.
Each zero has one place, and what is no number gets a new place every time. -/
theorem Pool.entries_after_zeros :
    let sized (x : Binary64) : Style := { font := { size := some x } }
    let zero := sized (.signedZero false)
    let negative := sized (.signedZero true)
    let hash (s : Style) : UInt64 := (s.font.size.map fun x => .ofNat x.toBits).getD 1
    let calls := [.intern zero, .merge 1 negative, .intern (sized .nan)]
    let pool := new.after calls
    let hashed := (HashedPool.new hash).after hash calls
    let grown := (pool.answer (.intern negative)).2.after [.intern (sized .nan), .intern zero]
    zero.equal negative = true ∧ pool.styles = [{}, zero, negative, sized .nan] ∧
      NoClash hash (calls ++ [.intern (sized .nan)]) ∧ hashed.Indexes hash pool ∧
      (hashed.answer hash (.intern (sized .nan))).1 = 4 ∧
      grown.intern negative = (2, grown) := by
  intro sized zero negative hash calls pool hashed grown
  have hclash : NoClash hash (calls ++ [.intern (sized .nan)]) := by decide
  obtain ⟨hindexes, hanswer, -⟩ := (entries_after calls).2.2.2.2 hash _ hclash
  have hagain := ((entries_after calls).2.2.2.1 (.intern negative)
    [.intern (sized .nan), .intern zero]).2.2 negative rfl
  have hplace : (pool.answer (.intern negative)).1 = 2 := by decide
  refine ⟨by decide, by decide, hclash, hindexes, hanswer.trans (by decide), ?_⟩
  rw [← hplace]
  exact hagain.2 (by decide)

end TableBook
