import Mathlib.Data.List.Perm.Subperm
import Mathlib.Order.Bounds.Basic
import TableBook.Proofs.Numeral
import TableBook.Proofs.SeparateTables

namespace TableBook

namespace Text

/-- The small letters of a text end in those of its rest, after what comes first. -/
theorem exists_lowerAfter_append (before front rest : List Char) :
    ∃ small, lowerAfter before (front ++ rest) =
      small ++ lowerAfter (front.reverse ++ before) rest := by
  induction front generalizing before with
  | nil => exact ⟨[], rfl⟩
  | cons c front ih =>
      obtain ⟨small, hsmall⟩ := ih (c :: before)
      simp only [List.cons_append, lowerAfter, hsmall, List.reverse_cons, List.append_assoc,
        List.nil_append]
      exact ⟨_ ++ small, (List.append_assoc ..).symm⟩

theorem lowerAfter_eq_self {cs : List Char} (h : ∀ c ∈ cs, c ≠ 'Σ' ∧ lowerChar c = [c])
    (before : List Char) : lowerAfter before cs = cs := by
  induction cs generalizing before with
  | nil => rfl
  | cons c cs ih =>
      obtain ⟨⟨hsigma, hsmall⟩, hrest⟩ := List.forall_mem_cons.mp h
      rw [lowerAfter, ih hrest, if_neg hsigma, hsmall]
      rfl

theorem lowerChar_of_isDigit {c : Char} (h : c.isDigit = true) :
    c ≠ 'Σ' ∧ lowerChar c = [c] := by
  have hascii : c.toNat < 128 := Nat.lt_of_le_of_lt (between_of_isDigit h).2 (by decide)
  constructor
  · rintro rfl
    exact absurd h (by decide)
  · simp only [lowerChar, hascii, if_true, toLower_of_isDigit h]

end Text

namespace SheetName

open Text

variable {taken existing : List String} {name : String} {m n start : Nat}

/-- What a number adds to a name. -/
def ending (n : Nat) : List Char := ' ' :: '(' :: (Nat.toDigits 10 n ++ [')'])

theorem toList_numbered (name : String) (n : Nat) :
    (numbered name n).toList =
      trimEnd (name.toList.take (maxLength - (ending n).length)) ++ ending n := by
  have hending : " (".toList ++ (toString n).toList ++ [')'] = ending n := by
    rw [Nat.toString_eq_repr, Nat.toList_repr]
    rfl
  rw [numbered, hending, String.toList_ofList]

theorem mem_ending_cases {c : Char} (h : c ∈ ending n) :
    c.isDigit = true ∨ c = ' ' ∨ c = '(' ∨ c = ')' := by
  simp only [ending, List.mem_cons, List.mem_append, List.not_mem_nil, or_false] at h
  rcases h with hspace | hopen | hdigit | hclose
  · exact .inr (.inl hspace)
  · exact .inr (.inr (.inl hopen))
  · exact .inl (Nat.isDigit_of_mem_toDigits (by decide) (by decide) hdigit)
  · exact .inr (.inr (.inr hclose))

theorem lowerAfter_ending (before : List Char) (n : Nat) :
    lowerAfter before (ending n) = ending n := by
  refine lowerAfter_eq_self ?_ before
  intro c hc
  rcases mem_ending_cases hc with hdigit | rfl | rfl | rfl
  · exact lowerChar_of_isDigit hdigit
  all_goals decide

theorem eq_of_append_ending {front front' : List Char}
    (h : front ++ ending m = front' ++ ending n) : m = n := by
  have hsplit : ∀ (front : List Char) (n : Nat),
      ((front ++ ending n).reverse.tail.takeWhile Char.isDigit).reverse = Nat.toDigits 10 n := by
    intro front n
    have hdigits : ∀ c ∈ (Nat.toDigits 10 n).reverse, c.isDigit = true := by
      intro c hc
      exact Nat.isDigit_of_mem_toDigits (by decide) (by decide) (List.mem_reverse.mp hc)
    simp [ending, List.takeWhile_append_of_pos hdigits]
  have hdigits : Nat.toDigits 10 m = Nat.toDigits 10 n := by
    rw [← hsplit front m, h, hsplit front' n]
  rw [← Nat.ofDigitChars_toDigits (b := 10) (n := m) (by decide) (by decide), hdigits]
  exact Nat.ofDigitChars_toDigits (by decide) (by decide)

/-- Numbers tell names apart, whatever is cut off them and in either case. -/
theorem eq_of_lowercase_numbered (h : lowercase (numbered name m) = lowercase (numbered name n)) :
    m = n := by
  have hends : ∀ n, ∃ front, (lowercase (numbered name n)).toList = front ++ ending n := by
    intro n
    rw [lowercase, String.toList_ofList, toList_numbered]
    -- What the small letters of the name are does not matter, only how they end.
    obtain ⟨small, hsmall⟩ := exists_lowerAfter_append [] _ (ending n)
    exact ⟨small, hsmall.trans (congrArg _ (lowerAfter_ending _ n))⟩
  obtain ⟨front, hfront⟩ := hends m
  obtain ⟨front', hfront'⟩ := hends n
  exact eq_of_append_ending (hfront.symm.trans ((congrArg _ h).trans hfront'))

/-- Of any numbers one more than there are names taken, one is free. -/
theorem exists_free (taken : List String) (name : String) (start : Nat) :
    ∃ n, start ≤ n ∧ n ≤ start + taken.length ∧ isTaken taken (numbered name n) = false := by
  by_contra hnone
  push Not at hnone
  -- Were they all taken, they would be more distinct names than there are in the list.
  let candidates : List String :=
    (List.range (taken.length + 1)).map fun k => lowercase (numbered name (start + k))
  have hnodup : candidates.Nodup := by
    refine List.Nodup.map ?_ List.nodup_range
    intro j k hjk
    exact Nat.add_left_cancel (eq_of_lowercase_numbered hjk)
  have hsubset : candidates ⊆ taken := by
    intro candidate hcandidate
    obtain ⟨k, hk, rfl⟩ := List.mem_map.mp hcandidate
    rw [List.mem_range] at hk
    have htaken := hnone (start + k) (by omega) (by omega)
    rw [ne_eq, Bool.not_eq_false] at htaken
    exact List.contains_iff_mem.mp htaken
  have hlength := (List.subperm_of_subset hnodup hsubset).length_le
  rw [List.length_map, List.length_range] at hlength
  omega

theorem firstFree_eq {tries : Nat} (hfirst : start ≤ n) (hlast : n ≤ start + tries)
    (hfree : isTaken taken (numbered name n) = false)
    (htaken : ∀ k, start ≤ k → k < n → isTaken taken (numbered name k) = true) :
    firstFree taken name tries start = numbered name n := by
  induction tries generalizing start with
  | zero =>
      obtain rfl : start = n := by omega
      rfl
  | succ tries ih =>
      rw [firstFree]
      split
      · next hstart =>
          have hne : start ≠ n := by
            rintro rfl
            rw [hfree] at hstart
            cases hstart
          refine ih (by omega) (by omega) ?_
          intro k hk
          exact htaken k (by omega)
      · next hstart =>
          by_contra hne
          have hlt : start < n := Nat.lt_of_le_of_ne hfirst fun h => hne (h ▸ rfl)
          exact hstart (htaken start (Nat.le_refl _) hlt)

/-- The numbers from 2 on under which a name is free. -/
def freeNumbers (existing : List String) (name : String) : Set Nat :=
  {n | 2 ≤ n ∧ lowercase (numbered name n) ∉ existing.map lowercase}

theorem isTaken_map_iff :
    isTaken (existing.map lowercase) name = true ↔ lowercase name ∈ existing.map lowercase :=
  List.contains_iff_mem

theorem dedupe_of_free (h : lowercase name ∉ existing.map lowercase) :
    dedupe name existing = name := by
  rw [dedupe, if_neg]
  rwa [isTaken_map_iff]

/-- A repeated name gets the least number under which it is free, and that is not
far. -/
theorem exists_isLeast_dedupe (h : lowercase name ∈ existing.map lowercase) :
    ∃ n, IsLeast (freeNumbers existing name) n ∧ n ≤ existing.length + 2 ∧
      dedupe name existing = numbered name n := by
  classical
  obtain ⟨m, hm, hlast, hfree⟩ := exists_free (existing.map lowercase) name 2
  have hmem : ∀ n, n ∈ freeNumbers existing name ↔
      2 ≤ n ∧ isTaken (existing.map lowercase) (numbered name n) = false := by
    intro n
    rw [← Bool.not_eq_true, isTaken_map_iff]
    rfl
  have hexists : ∃ n, n ∈ freeNumbers existing name := ⟨m, (hmem m).mpr ⟨hm, hfree⟩⟩
  have hle : Nat.find hexists ≤ existing.length + 2 := by
    have hleast := Nat.find_min' hexists ((hmem m).mpr ⟨hm, hfree⟩)
    rw [List.length_map] at hlast
    omega
  obtain ⟨hstart, hfirst⟩ := (hmem _).mp (Nat.find_spec hexists)
  refine ⟨Nat.find hexists, ⟨Nat.find_spec hexists, fun _ => Nat.find_min' hexists⟩, hle, ?_⟩
  rw [dedupe, if_pos (isTaken_map_iff.mpr h)]
  refine firstFree_eq hstart (by omega) hfirst ?_
  intro k hk hlt
  have hnotFree := Nat.find_min hexists hlt
  rw [hmem, not_and, Bool.not_eq_false] at hnotFree
  exact hnotFree hk

theorem lowercase_dedupe_notMem (name : String) (existing : List String) :
    lowercase (dedupe name existing) ∉ existing.map lowercase := by
  by_cases h : lowercase name ∈ existing.map lowercase
  · obtain ⟨n, ⟨⟨-, hfree⟩, -⟩, -, heq⟩ := exists_isLeast_dedupe h
    rw [heq]
    exact hfree
  · rw [dedupe_of_free h]
    exact h

theorem dedupe_eq_self_iff :
    dedupe name existing = name ↔ lowercase name ∉ existing.map lowercase :=
  ⟨fun h => h ▸ lowercase_dedupe_notMem name existing, dedupe_of_free⟩

section Legal

theorem numbered_ne_empty (name : String) (n : Nat) : numbered name n ≠ "" := by
  intro h
  have hempty := toList_numbered name n
  rw [h] at hempty
  exact List.cons_ne_nil _ _ (List.append_eq_nil_iff.mp hempty.symm).2

theorem numbered_allowed (h : ∀ c ∈ name.toList, c ∉ forbidden) (n : Nat) :
    ∀ c ∈ (numbered name n).toList, c ∉ forbidden := by
  intro c hc
  rw [toList_numbered, List.mem_append] at hc
  rcases hc with hkept | hending
  · exact h c (List.mem_of_mem_take ((prefix_trimEnd _).subset hkept))
  · rcases mem_ending_cases hending with hdigit | rfl | rfl | rfl
    · have hnone : ∀ c ∈ forbidden, c.isDigit = false := by simp [forbidden]
      intro hforbidden
      rw [hnone c hforbidden] at hdigit
      cases hdigit
    all_goals decide

/-- A number that is tried leaves its name short enough, at the cost of the characters that it
replaces. -/
theorem length_numbered_le (h : n ≤ lastNumber) :
    (numbered name n).toList.length ≤ maxLength := by
  have hdigits : (Nat.toDigits 10 n).length ≤ 10 :=
    (Nat.length_toDigits_le_iff (by decide) (by decide)).mpr (Nat.lt_of_le_of_lt h (by decide))
  have hending : (ending n).length ≤ maxLength := by
    simp only [ending, List.length_cons, List.length_append, List.length_nil, maxLength]
    omega
  have htrimmed := (prefix_trimEnd (name.toList.take (maxLength - (ending n).length))).length_le
  rw [List.length_take] at htrimmed
  rw [toList_numbered, List.length_append]
  omega

theorem eq_or_numbered_of_dedupe (name : String) (existing : List String) :
    dedupe name existing = name ∨
      ∃ n, n ≤ existing.length + 2 ∧ dedupe name existing = numbered name n := by
  by_cases h : lowercase name ∈ existing.map lowercase
  · obtain ⟨n, -, hle, heq⟩ := exists_isLeast_dedupe h
    exact .inr ⟨n, hle, heq⟩
  · exact .inl (dedupe_of_free h)

end Legal

end SheetName

namespace Sheet

open SheetName

variable {options : Options} {table : Element} {taken : List String}

theorem nameOf_cases (options : Options) (table : Element) (taken : List String) :
    nameOf options table taken = ofAttribute table.sheetName ∨
      options.dedupe = true ∧ ∃ n, n ≤ taken.length + 2 ∧
        nameOf options table taken = numbered (ofAttribute table.sheetName) n := by
  rw [nameOf]
  split
  · next hdedupe => exact (eq_or_numbered_of_dedupe _ taken).imp_right fun h => ⟨hdedupe, h⟩
  · exact .inl rfl

theorem nameOf_of_dedupe (h : options.dedupe = true) :
    nameOf options table taken = dedupe (ofAttribute table.sheetName) taken :=
  if_pos h

theorem nameOf_allowed (options : Options) (table : Element) (taken : List String) :
    nameOf options table taken ≠ "" ∧
      ∀ c ∈ (nameOf options table taken).toList, c ∉ forbidden := by
  obtain ⟨hne, -, hallowed⟩ := ofAttribute_legal table.sheetName
  obtain heq | ⟨-, n, -, heq⟩ := nameOf_cases options table taken
  · rw [heq]
    exact ⟨hne, hallowed⟩
  · rw [heq]
    exact ⟨numbered_ne_empty _ n, numbered_allowed hallowed n⟩

theorem length_nameOf_le (h : options.dedupe = true → taken.length + 2 ≤ lastNumber) :
    (nameOf options table taken).toList.length ≤ maxLength := by
  obtain heq | ⟨hdedupe, n, hn, heq⟩ := nameOf_cases options table taken
  · rw [heq]
    exact (ofAttribute_legal table.sheetName).2.1
  · rw [heq]
    exact length_numbered_le (hn.trans (h hdedupe))

end Sheet

namespace Workbook

open SheetName Text

variable {context : Context}

theorem names_push (w : Workbook) (s : Sheet) : (w.push s).names = w.names ++ [s.name] := by
  rw [names, push, List.map_append]
  rfl

theorem name_of_ofTable {table : Element} {taken : List String} {s : Sheet}
    (h : Sheet.ofTable context table taken = .ok s) :
    s.name = Sheet.nameOf context.options table taken := by
  obtain ⟨s₀, -, rfl⟩ := ofTable_eq_ok_iff.mp h
  rfl

theorem names_of_addTables {w v : Workbook} {index : Nat} {tables : List Element}
    (h : addTables context w index tables = .ok v) {i : Nat} {table : Element}
    (htable : tables[i]? = some table) :
    v.names[w.names.length + i]? =
      some (Sheet.nameOf context.options table (v.names.take (w.names.length + i))) := by
  induction tables generalizing w index i with
  | nil => cases htable
  | cons first rest ih =>
      rw [addTables] at h
      split at h
      · next s hs =>
          cases i with
          | zero =>
              obtain rfl : first = table := Option.some.inj htable
              obtain ⟨sheets, hsheets, -⟩ :=
                forall₂_addTables (P := fun _ _ => True) (fun _ _ _ _ => trivial) h
              have hnames : v.names = w.names ++ s.name :: sheets.map (·.name) := by
                rw [names, hsheets, List.map_append]
                exact (congrArg (· ++ _) (names_push w s)).trans (List.append_assoc ..)
              simp [hnames, name_of_ofTable hs]
          | succ i =>
              have hrest := ih h htable
              rw [names_push, List.length_append, List.length_singleton, Nat.add_right_comm,
                Nat.add_assoc] at hrest
              exact hrest
      · cases h

theorem names_of_ofNodes {nodes : List Node} {w : Workbook} (h : ofNodes context nodes = .ok w)
    {i : Nat} {table : Element}
    (htable : (Node.findAll Element.isSheetTable nodes)[i]? = some table) :
    w.names[i]? = some (Sheet.nameOf context.options table (w.names.take i)) := by
  have hne : Node.findAll Element.isSheetTable nodes ≠ [] := by
    intro hnil
    rw [hnil] at htable
    cases htable
  have hnames := names_of_addTables ((ofNodes_of_ne_nil hne).symm.trans h) htable
  simpa [names] using hnames

theorem length_names_of_ofNodes {nodes : List Node} {w : Workbook}
    (h : ofNodes context nodes = .ok w) :
    w.names.length = (Node.findAll Element.isSheetTable nodes).length := by
  rw [names, List.length_map]
  exact (forall₂_ofNodes (P := fun _ _ => True) (fun _ _ _ _ => trivial) h).length_eq.symm

theorem exists_table_of_name {nodes : List Node} {w : Workbook}
    (h : ofNodes context nodes = .ok w) {i : Nat} {name : String}
    (hname : w.names[i]? = some name) :
    ∃ table, (Node.findAll Element.isSheetTable nodes)[i]? = some table ∧
      name = Sheet.nameOf context.options table (w.names.take i) := by
  have hi : i < (Node.findAll Element.isSheetTable nodes).length := by
    rw [← length_names_of_ofNodes h]
    exact (List.getElem?_eq_some_iff.mp hname).1
  refine ⟨_, List.getElem?_eq_getElem hi, ?_⟩
  have hnamed := names_of_ofNodes h (List.getElem?_eq_getElem hi)
  exact Option.some.inj (hname.symm.trans hnamed)

/-- Every sheet has a name that a sheet may have; it is short enough as long as the numbers of
repeated names are words. Where names must not be repeated, no two are the same but for case, and
a table keeps the name that it gives exactly if no sheet before has it. -/
theorem ofNodes_names {nodes : List Node} {w : Workbook} (h : ofNodes context nodes = .ok w) :
    (∀ (i : Nat) (name : String), w.names[i]? = some name →
      name ≠ "" ∧ (∀ c ∈ name.toList, c ∉ forbidden) ∧
        ((context.options.dedupe = true → i + 2 ≤ lastNumber) →
          name.toList.length ≤ maxLength)) ∧
      (context.options.dedupe = true →
        (w.names.map lowercase).Nodup ∧
        ∀ (i : Nat) (table : Element),
          (Node.findAll Element.isSheetTable nodes)[i]? = some table →
            (w.names[i]? = some (ofAttribute table.sheetName) ↔
              lowercase (ofAttribute table.sheetName) ∉ (w.names.take i).map lowercase)) := by
  constructor
  · intro i name hname
    obtain ⟨table, -, rfl⟩ := exists_table_of_name h hname
    obtain ⟨hne, hallowed⟩ := Sheet.nameOf_allowed context.options table (w.names.take i)
    refine ⟨hne, hallowed, ?_⟩
    intro hcount
    apply Sheet.length_nameOf_le
    intro hdedupe
    have hi := hcount hdedupe
    rw [List.length_take]
    omega
  · intro hdedupe
    constructor
    · rw [List.nodup_iff_pairwise_ne, List.pairwise_iff_getElem]
      intro i j hi hj hlt hsame
      rw [List.getElem_map, List.getElem_map] at hsame
      rw [List.length_map] at hi hj
      obtain ⟨table, -, hname⟩ := exists_table_of_name h (List.getElem?_eq_getElem hj)
      refine lowercase_dedupe_notMem (ofAttribute table.sheetName) (w.names.take j) ?_
      rw [← Sheet.nameOf_of_dedupe hdedupe, ← hname, ← hsame]
      exact List.mem_map_of_mem (List.mem_take_iff_getElem.mpr ⟨i, by omega, rfl⟩)
    · intro i table htable
      rw [names_of_ofNodes h htable, Sheet.nameOf_of_dedupe hdedupe, Option.some_inj,
        dedupe_eq_self_iff]

/-- Two tables whose names differ in case only: the second one is numbered. -/
theorem ofNodes_names_repeated :
    let context : Context := ⟨∅, { dedupe := true }, {}⟩
    let table (name : String) : Element := ⟨"table", [(Mark.sheet.name, name)], []⟩
    let nodes : List Node := [.element (table "Data"), .element (table "data")]
    ∃ w, ofNodes context nodes = .ok w ∧ w.names = ["Data", "data (2)"] ∧
      (w.names.map lowercase).Nodup := by
  intro context table nodes
  have hread : (ofNodes context nodes).toOption.isSome = true := by decide +kernel
  obtain ⟨w, hw⟩ := Option.isSome_iff_exists.mp hread
  have h : ofNodes context nodes = .ok w := toOption_eq_some_iff.mp hw
  refine ⟨w, h, ?_, ((ofNodes_names h).2 rfl).1⟩
  have htables : Node.findAll Element.isSheetTable nodes = [table "Data", table "data"] := by
    simp only [nodes, table, Node.findAll, Node.find, Element.find]
    rfl
  have hlength := length_names_of_ofNodes h
  rw [htables] at hlength
  obtain ⟨first, second, hnames⟩ := List.length_eq_two.mp hlength
  have hfirst := names_of_ofNodes h (i := 0) (congrArg (·[0]?) htables)
  have hsecond := names_of_ofNodes h (i := 1) (congrArg (·[1]?) htables)
  rw [hnames, Sheet.nameOf_of_dedupe rfl] at hfirst hsecond
  rw [List.getElem?_cons_zero, List.take_zero] at hfirst
  rw [List.getElem?_cons_succ, List.getElem?_cons_zero, List.take_succ_cons,
    List.take_zero] at hsecond
  -- The cleaned names are put in before the search for a number is run.
  have hclean : ofAttribute (table "Data").sheetName = "Data" ∧
      ofAttribute (table "data").sheetName = "data" := by
    decide +kernel
  have hrun : dedupe "Data" [] = "Data" ∧ dedupe "data" ["Data"] = "data (2)" := by
    decide +kernel
  have hfree : first = "Data" :=
    calc first = dedupe (ofAttribute (table "Data").sheetName) [] := Option.some.inj hfirst
      _ = dedupe "Data" [] := congrArg (dedupe · []) hclean.1
      _ = "Data" := hrun.1
  have hnumbered : second = "data (2)" :=
    calc second = dedupe (ofAttribute (table "data").sheetName) [first] :=
          Option.some.inj hsecond
      _ = dedupe "data" ["Data"] := by rw [hclean.2, hfree]
      _ = "data (2)" := hrun.2
  rw [hnames, hfree, hnumbered]

end Workbook

end TableBook
