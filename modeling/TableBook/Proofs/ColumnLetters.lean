import Mathlib.Data.List.Induction
import Mathlib.Data.Nat.Digits.Defs
import TableBook.Address.Parser

namespace TableBook

namespace Address

variable {letters cs : List Char} {c : Char} {column fuel : Nat}

/-- The digits of the numeral system, from 1 on. -/
def alphabet : List Char := "ABCDEFGHIJKLMNOPQRSTUVWXYZ".toList

/-- The value of a letter of either case: A = 1 to Z = 26. -/
def digitOf (c : Char) : Nat := alphabet.idxOf c.toUpper + 1

/-- The number that letters write to the base of 26, however great it is. -/
def numberOf (letters : List Char) : Nat := Nat.ofDigits 26 (letters.reverse.map digitOf)

/-- One or more ASCII letters of either case. -/
def AreLetters (letters : List Char) : Prop := letters ≠ [] ∧ ∀ c ∈ letters, c.isAlpha = true

section Letter

theorem toNat_lt_of_isAlpha (h : c.isAlpha = true) : c.toNat < 128 := by
  rcases Bool.or_eq_true_iff.mp h with hupper | hlower
  · have hbounds : 'A'.val ≤ c.val ∧ c.val ≤ 'Z'.val := of_decide_eq_true hupper
    exact Nat.lt_of_le_of_lt (UInt32.le_iff_toNat_le.mp hbounds.2) (by decide)
  · have hbounds : (decide ('a'.val ≤ c.val) && decide (c.val ≤ 'z'.val)) = true := hlower
    have hle : c.val ≤ 'z'.val := of_decide_eq_true (Bool.and_eq_true_iff.mp hbounds).2
    exact Nat.lt_of_le_of_lt (UInt32.le_iff_toNat_le.mp hle) (by decide)

/-- A fact about letters needs to be seen for ASCII characters only. -/
theorem forall_isAlpha {p : Char → Prop}
    (hall : ∀ k : Fin 128, (Char.ofNat k).isAlpha = true → p (Char.ofNat k))
    (h : c.isAlpha = true) : p c :=
  Text.forall_ascii (p := fun c => c.isAlpha = true → p c) hall (toNat_lt_of_isAlpha h) h

theorem letterValue_eq_digitOf (h : c.isAlpha = true) : letterValue c = digitOf c :=
  forall_isAlpha (p := fun c => letterValue c = digitOf c) (by decide) h

theorem digitOf_bounds (h : c.isAlpha = true) : 1 ≤ digitOf c ∧ digitOf c ≤ 26 :=
  forall_isAlpha (p := fun c => 1 ≤ digitOf c ∧ digitOf c ≤ 26) (by decide) h

theorem ofNat_digitOf (h : c.isAlpha = true) :
    Char.ofNat ('A'.toNat + (digitOf c - 1)) = c.toUpper :=
  forall_isAlpha (p := fun c => Char.ofNat ('A'.toNat + (digitOf c - 1)) = c.toUpper)
    (by decide) h

theorem digitOf_ofNat {n : Nat} (h : n < 26) :
    (Char.ofNat ('A'.toNat + n)).isAlpha = true ∧ digitOf (Char.ofNat ('A'.toNat + n)) = n + 1 := by
  have hall : ∀ k : Fin 26, (Char.ofNat ('A'.toNat + k)).isAlpha = true ∧
      digitOf (Char.ofNat ('A'.toNat + k)) = k + 1 := by
    decide
  exact hall ⟨n, h⟩

end Letter

@[simp] theorem numberOf_nil : numberOf [] = 0 := rfl

@[simp] theorem numberOf_append_singleton (letters : List Char) (c : Char) :
    numberOf (letters ++ [c]) = 26 * numberOf letters + digitOf c := by
  rw [numberOf, List.reverse_append, List.reverse_singleton, List.singleton_append, List.map_cons,
    Nat.ofDigits_cons, Nat.add_comm]
  rfl

section Writing

theorem lettersWithin_eq {n : Nat} (h : column ≤ fuel) (h' : column ≤ n) :
    lettersWithin fuel column = lettersWithin n column := by
  induction fuel generalizing column n with
  | zero =>
      obtain rfl : column = 0 := Nat.le_zero.mp h
      cases n <;> rfl
  | succ fuel ih =>
      cases n with
      | zero =>
          obtain rfl : column = 0 := Nat.le_zero.mp h'
          rfl
      | succ n =>
          simp only [lettersWithin]
          split
          · rfl
          · rw [ih (n := n) (by omega) (by omega)]

theorem columnLetters_mul_add {number digit : Nat} (h : 1 ≤ digit) (h' : digit ≤ 26) :
    columnLetters (26 * number + digit) =
      columnLetters number ++ [Char.ofNat ('A'.toNat + (digit - 1))] := by
  obtain ⟨column, hcolumn⟩ : ∃ column, 26 * number + digit = column + 1 :=
    ⟨26 * number + digit - 1, by omega⟩
  have hdiv : column / 26 = number := by omega
  have hmod : column % 26 = digit - 1 := by omega
  rw [hcolumn, columnLetters, lettersWithin, if_neg (Nat.succ_ne_zero column), Nat.add_sub_cancel,
    hdiv, hmod, columnLetters, lettersWithin_eq (by omega) (Nat.le_refl number)]

theorem columnLetters_numberOf (h : ∀ c ∈ letters, c.isAlpha = true) :
    columnLetters (numberOf letters) = letters.map Char.toUpper := by
  induction letters using List.reverseRecOn with
  | nil => rfl
  | append_singleton letters c ih =>
      rw [List.forall_mem_append, List.forall_mem_singleton] at h
      obtain ⟨hpos, hle⟩ := digitOf_bounds h.2
      rw [numberOf_append_singleton, columnLetters_mul_add hpos hle, ih h.1, ofNat_digitOf h.2,
        List.map_append, List.map_singleton]

/-- A numeral consists of letters, and they write its number. -/
theorem numberOf_columnLetters (column : Nat) :
    (∀ c ∈ columnLetters column, c.isAlpha = true) ∧ numberOf (columnLetters column) = column := by
  induction column using Nat.strong_induction_on with
  | h column ih =>
      rcases Nat.eq_zero_or_pos column with rfl | hpos
      · exact ⟨fun c hc => (List.not_mem_nil hc).elim, rfl⟩
      · obtain ⟨hletters, hnumber⟩ := ih ((column - 1) / 26) (by omega)
        obtain ⟨hletter, hdigit⟩ := digitOf_ofNat (Nat.mod_lt (column - 1) (by decide : 0 < 26))
        have hcolumn : column = 26 * ((column - 1) / 26) + ((column - 1) % 26 + 1) := by omega
        have heq : columnLetters column = columnLetters ((column - 1) / 26) ++
            [Char.ofNat ('A'.toNat + (column - 1) % 26)] := by
          conv_lhs => rw [hcolumn]
          exact columnLetters_mul_add (by omega) (by omega)
        rw [heq, List.forall_mem_append, List.forall_mem_singleton, numberOf_append_singleton,
          hnumber, hdigit]
        exact ⟨⟨hletters, hletter⟩, hcolumn.symm⟩

theorem areLetters_columnLetters (h : 1 ≤ column) : AreLetters (columnLetters column) := by
  obtain ⟨hletters, hnumber⟩ := numberOf_columnLetters column
  refine ⟨fun hnil => ?_, hletters⟩
  rw [hnil, numberOf_nil] at hnumber
  omega

end Writing

section Reading

theorem columnAfter_min (letters : List Char) (h : ∀ c ∈ cs, c.isAlpha = true) :
    columnAfter (min (numberOf letters) Merge.lastIndex) cs =
      .ok (min (numberOf (letters ++ cs)) Merge.lastIndex) := by
  induction cs generalizing letters with
  | nil => rw [List.append_nil, columnAfter]
  | cons c cs ih =>
      rw [List.forall_mem_cons] at h
      -- The reader carries the number so far, cut at the greatest word. One that was cut before
      -- is not made small again by the next letter.
      have hcut :
          min (min (numberOf letters) Merge.lastIndex * 26 + letterValue c) Merge.lastIndex =
            min (numberOf (letters ++ [c])) Merge.lastIndex := by
        rw [numberOf_append_singleton, letterValue_eq_digitOf h.1]
        omega
      rw [columnAfter, if_pos h.1, hcut, ih _ h.2, List.append_assoc, List.singleton_append]

theorem columnAfter_of_find? (h : letters.find? (!·.isAlpha) = some c) :
    columnAfter column letters = .error (.invalidAddress (.invalidLetter c)) := by
  induction letters generalizing column with
  | nil => cases h
  | cons d letters ih =>
      rw [columnAfter]
      rw [List.find?_cons] at h
      split at h
      · next hd =>
          obtain rfl := Option.some.inj h
          rw [if_neg (by simpa using hd)]
      · next hd =>
          rw [if_pos (by simpa using hd), ih h]

theorem columnOfLetters_eq (h : AreLetters letters) :
    columnOfLetters letters =
      if numberOf letters ≤ maxColumns then .ok (numberOf letters)
      else .error (.columnOutOfBounds (min (numberOf letters) Merge.lastIndex)) := by
  have hempty : letters.isEmpty = false := by simpa using h.1
  have hread : columnAfter 0 letters = .ok (min (numberOf letters) Merge.lastIndex) :=
    columnAfter_min [] h.2
  have hlimit : maxColumns < Merge.lastIndex := by decide
  simp only [columnOfLetters, hempty, Bool.false_eq_true, if_false, hread]
  by_cases hle : numberOf letters ≤ maxColumns
  · rw [Nat.min_eq_left (hle.trans hlimit.le), if_pos hle]
  · have hcut : ¬min (numberOf letters) Merge.lastIndex ≤ maxColumns := by omega
    rw [if_neg hcut, if_neg hle]

theorem columnOfLetters_of_not (h : ¬AreLetters letters) :
    columnOfLetters letters = .error (.invalidAddress
      ((letters.find? (!·.isAlpha)).elim .emptyLetters .invalidLetter)) := by
  rw [columnOfLetters]
  split
  · next hempty =>
      obtain rfl := List.isEmpty_iff.mp hempty
      rfl
  · next hne =>
      cases hfind : letters.find? (!·.isAlpha) with
      | none =>
          refine (h ⟨by simpa using hne, ?_⟩).elim
          simpa using hfind
      | some c => rw [columnAfter_of_find? hfind, Option.elim_some]

theorem columnOfLetters_eq_ok_iff :
    columnOfLetters letters = .ok column ↔
      AreLetters letters ∧ numberOf letters = column ∧ column ≤ maxColumns := by
  by_cases h : AreLetters letters
  · rw [columnOfLetters_eq h]
    constructor
    · intro hok
      split at hok
      · next hle =>
          cases hok
          exact ⟨h, rfl, hle⟩
      · cases hok
    · rintro ⟨-, rfl, hle⟩
      exact if_pos hle
  · rw [columnOfLetters_of_not h]
    constructor
    · intro hok
      cases hok
    · rintro ⟨hletters, -⟩
      exact (h hletters).elim

end Reading

/-- Columns and letters. The letters of a column are read as this column, or refused with its
number if there is no such column. Letters of either case and any length are read as the number
they write if it is a column, and its letters are the same in capitals; if not they are refused
with that number, cut at the greatest word. What is empty or has another character in it is no
column, and the first such character is told. -/
theorem columns_and_letters :
    (∀ column, 1 ≤ column → column < Text.wordLimit →
      columnOfLetters (columnLetters column) =
        if column ≤ maxColumns then .ok column else .error (.columnOutOfBounds column)) ∧
    (∀ letters, AreLetters letters →
      columnOfLetters letters =
        (if numberOf letters ≤ maxColumns then .ok (numberOf letters)
        else .error (.columnOutOfBounds (min (numberOf letters) (Text.wordLimit - 1)))) ∧
      columnLetters (numberOf letters) = letters.map Char.toUpper) ∧
    ∀ letters, ¬AreLetters letters →
      columnOfLetters letters = .error (.invalidAddress
        ((letters.find? (!·.isAlpha)).elim .emptyLetters .invalidLetter)) := by
  refine ⟨?_, ?_, fun letters => columnOfLetters_of_not⟩
  · intro column hpos hword
    have hcut : min column Merge.lastIndex = column :=
      Nat.min_eq_left (Nat.le_sub_one_of_lt hword)
    rw [columnOfLetters_eq (areLetters_columnLetters hpos), (numberOf_columnLetters column).2, hcut]
  · intro letters h
    exact ⟨columnOfLetters_eq h, columnLetters_numberOf h.2⟩

/-- The column behind the last one, letters for a number that does not fit 32 bits, and a
text that is not of letters. -/
theorem columns_and_letters_behind :
    (1 ≤ 16385 ∧ 16385 < Text.wordLimit ∧
      columnOfLetters (columnLetters 16385) = .error (.columnOutOfBounds 16385)) ∧
    (AreLetters "xfd".toList ∧ columnOfLetters "xfd".toList = .ok 16384 ∧
      columnLetters 16384 = "XFD".toList) ∧
    (AreLetters "ZZZZZZZ".toList ∧
      columnOfLetters "ZZZZZZZ".toList = .error (.columnOutOfBounds 4294967295)) ∧
    (¬AreLetters "A1".toList ∧
      columnOfLetters "A1".toList = .error (.invalidAddress (.invalidLetter '1'))) := by
  have hsmall : AreLetters "xfd".toList := ⟨by decide, by simp⟩
  have hgreat : AreLetters "ZZZZZZZ".toList := ⟨by decide, by simp⟩
  have hdigit : ¬AreLetters "A1".toList := fun h => absurd (h.2 '1' (by simp)) (by decide)
  obtain ⟨hcolumns, hletters, hothers⟩ := columns_and_letters
  exact ⟨⟨by decide, by decide, hcolumns 16385 (by decide) (by decide)⟩,
    ⟨hsmall, (hletters _ hsmall).1, (hletters _ hsmall).2⟩, ⟨hgreat, (hletters _ hgreat).1⟩,
    hdigit, hothers _ hdigit⟩

end Address

end TableBook
