import Mathlib.Data.List.TakeWhile
import TableBook.Mark.Grammar
import TableBook.Table.Attributes

namespace TableBook

namespace Text

theorem isBlank_of_between {low high c : Char} (h : low ≤ c ∧ c ≤ high) (hlow : 0x20 < low.toNat)
    (hhigh : high.toNat < 0x85) : isBlank c = false := by
  have hlow' : low.toNat ≤ c.toNat := UInt32.le_iff_toNat_le.mp h.1
  have hhigh' : c.toNat ≤ high.toNat := UInt32.le_iff_toNat_le.mp h.2
  simp only [isBlank, Bool.or_eq_false_iff, Bool.and_eq_false_iff, decide_eq_false_iff_not,
    beq_eq_false_iff_ne]
  omega

theorem trim_eq_self {cs : List Char} (h : ∀ c ∈ cs, isBlank c = false) : trim cs = cs := by
  refine stripWith_eq_self ?_ ?_
  · intro c hc
    exact h c (List.mem_of_mem_head? hc)
  · intro c hc
    exact h c (List.mem_of_getLast? hc)

theorem between_of_isDigit {c : Char} (h : c.isDigit = true) : '0' ≤ c ∧ c ≤ '9' := by
  rw [Char.isDigit, Bool.and_eq_true] at h
  exact ⟨of_decide_eq_true h.1, of_decide_eq_true h.2⟩

/-- A number in digits is the one they write to the base of ten. -/
theorem readWord_eq_some {cs : List Char} {n : Nat} (h : readWord cs = some n) :
    cs ≠ [] ∧ (∀ c ∈ cs, c.isDigit = true) ∧ Nat.ofDigitChars 10 cs 0 = n := by
  rw [readWord] at h
  split at h
  · cases h
  · next hshape =>
      simp only [Bool.or_eq_true, List.isEmpty_iff, Bool.not_eq_true', not_or,
        Bool.not_eq_false, List.all_eq_true] at hshape
      dsimp only at h
      split at h
      · exact ⟨hshape.1, hshape.2, Option.some.inj h⟩
      · cases h

end Text

namespace Binary64

theorem le_log2_mul_pow {n : Nat} (h : 0 < n) (bits : Nat) :
    bits ≤ (n * Nat.pow 2 bits).log2 := by
  have hunits : 2 ^ bits ≤ n * 2 ^ bits := Nat.le_mul_of_pos_left _ h
  exact (Nat.le_log2 (Nat.ne_of_gt (Nat.lt_of_lt_of_le (Nat.two_pow_pos bits) hunits))).mpr hunits

theorem nearestRank_pos {num : Nat} (h : 1074 ≤ num.log2) : 0 < nearestRank num 1 := by
  have hbits : 0 < spacingBits num 1 := by
    rw [spacingBits, Nat.div_one]
    omega
  exact Nat.lt_of_lt_of_le (Nat.mul_pos hbits (Nat.two_pow_pos 52)) (Nat.le_add_right _ _)

theorem isPositive_ofUnits {num den : Nat} (h : 0 < nearestRank num den) :
    (ofUnits false num den).isPositive = true := by
  rw [ofUnits]
  split
  · simpa [isPositive, less, isNan, zero, signedZero, position] using h
  · simp [isPositive, less, isNan, zero, signedZero, position]

theorem isPositive_ofRatio_one {n : Nat} (h : 0 < n) : (ofRatio false n 1).isPositive = true := by
  unfold ofRatio one
  -- Unification would write the power out if it saw the number.
  generalize hbits : 1074 = bits
  have hlog : bits ≤ (n * Nat.pow 2 bits).log2 := le_log2_mul_pow h bits
  exact isPositive_ofUnits (nearestRank_pos (Nat.le_trans (Nat.le_of_eq hbits) hlog))

end Binary64

section Digits

variable {cs : List Char}

theorem Decimal.splitSign_of_digits (h : ∀ c ∈ cs, c.isDigit = true) :
    Decimal.splitSign cs = (false, cs) := by
  unfold Decimal.splitSign
  split
  · exact absurd (h '-' List.mem_cons_self) (by decide)
  · exact absurd (h '+' List.mem_cons_self) (by decide)
  · rfl

theorem Decimal.read_of_digits (hne : cs ≠ []) (h : ∀ c ∈ cs, c.isDigit = true) :
    Decimal.read cs = some ⟨false, Nat.ofDigitChars 10 cs 0, 0⟩ := by
  have hwhole : cs.takeWhile Char.isDigit = cs := List.takeWhile_eq_self_iff.mpr h
  have hrest : cs.dropWhile Char.isDigit = [] := List.dropWhile_eq_nil_iff.mpr h
  rw [Decimal.read, Decimal.splitSign_of_digits h]
  simp only [Decimal.readUnsigned, hwhole, hrest, List.append_nil]
  rw [if_neg (by simp [hne])]
  rfl

theorem toLower_of_isDigit {c : Char} (h : c.isDigit = true) : c.toLower = c := by
  have hdigit : c ≤ '9' := (Text.between_of_isDigit h).2
  refine dif_neg ?_
  rintro ⟨hcapital, -⟩
  exact absurd (Char.le_trans hcapital hdigit) (by decide)

theorem map_toLower_of_digits (h : ∀ c ∈ cs, c.isDigit = true) : cs.map Char.toLower = cs := by
  refine Eq.trans (List.map_congr_left ?_) (List.map_id cs)
  intro c hc
  exact toLower_of_isDigit (h c hc)

/-- Neither the word for a number without a bound nor that for none is written
in digits. -/
theorem Binary64.read_of_digits (hne : cs ≠ []) (h : ∀ c ∈ cs, c.isDigit = true) :
    Binary64.read cs = some (Decimal.nearest ⟨false, Nat.ofDigitChars 10 cs 0, 0⟩) := by
  rw [Binary64.read, Decimal.splitSign_of_digits h, Decimal.read_of_digits hne h]
  simp only [map_toLower_of_digits h]
  rw [if_neg, if_neg, Option.map_some]
  · rintro rfl
    exact absurd (h 'n' (by decide)) (by decide)
  · rintro (rfl | rfl)
    · exact absurd (h 'i' (by decide)) (by decide)
    · exact absurd (h 'i' (by decide)) (by decide)

theorem Decimal.nearest_natural {n : Nat} (h : 0 < n) :
    Decimal.nearest ⟨false, n, 0⟩ = .ofRatio false n 1 := by
  have hsmall : ¬(0 + ((n.log2 : Int) + 1) < -exponentLimit) := by
    simp only [exponentLimit]
    omega
  simp only [Decimal.nearest, Nat.ne_of_gt h, hsmall, if_false]
  simp [exponentLimit]

theorem Text.trim_of_digits (h : ∀ c ∈ cs, c.isDigit = true) : Text.trim cs = cs := by
  refine Text.trim_eq_self ?_
  intro c hc
  exact Text.isBlank_of_between (Text.between_of_isDigit (h c hc)) (by decide) (by decide)

theorem Text.readSignedWord_of_digits (h : ∀ c ∈ cs, c.isDigit = true) :
    Text.readSignedWord cs = Text.readWord cs := by
  unfold Text.readSignedWord
  split
  · exact absurd (h '+' List.mem_cons_self) (by decide)
  · rfl

end Digits

namespace Grammar

variable {value : String} {n : Nat}

theorem positiveWord?_eq_some {cs : List Char} (h : positiveWord? cs = some n) :
    0 < n ∧ cs ≠ [] ∧ (∀ c ∈ cs, c.isDigit = true) ∧ Nat.ofDigitChars 10 cs 0 = n := by
  obtain ⟨hword, hpos⟩ := Option.filter_eq_some_iff.mp h
  exact ⟨of_decide_eq_true hpos, Text.readWord_eq_some hword⟩

theorem leadingNumber_of_positiveWord? (h : positiveWord? value.toList = some n) :
    Reader.leadingNumber value = some n := by
  obtain ⟨-, -, hdigits, -⟩ := positiveWord?_eq_some h
  rw [Reader.leadingNumber, Text.trim_of_digits hdigits, List.takeWhile_eq_self_iff.mpr hdigits]
  exact h

theorem zoom_of_positiveWord? (h : positiveWord? value.toList = some n) :
    Reader.zoom value = some n := by
  obtain ⟨-, -, hdigits, -⟩ := positiveWord?_eq_some h
  rw [Reader.zoom, Text.trim_of_digits hdigits, Text.readSignedWord_of_digits hdigits]
  exact h

theorem readPositive_of_positiveWord? (h : positiveWord? value.toList = some n) :
    Directive.readPositive value = some (.ofRatio false n 1) := by
  obtain ⟨hpos, hne, hdigits, hvalue⟩ := positiveWord?_eq_some h
  rw [Directive.readPositive, Text.trim_of_digits hdigits, Binary64.read_of_digits hne hdigits,
    hvalue, Decimal.nearest_natural hpos, Option.filter_some,
    if_pos (Binary64.isPositive_ofRatio_one hpos)]

theorem isSome_readPositive (h : isPositiveNumber value.toList = true) :
    (Directive.readPositive value).isSome = true := by
  rw [isPositiveNumber, Bool.and_eq_true] at h
  rw [Directive.readPositive]
  cases hread : Binary64.read (Text.trim value.toList) with
  | none =>
      rw [hread] at h
      exact absurd h.2 Bool.false_ne_true
  | some x =>
      rw [hread] at h
      have hpos : x.isPositive = true := h.2
      rw [Option.filter_some, if_pos hpos, Option.isSome_some]

end Grammar

end TableBook
