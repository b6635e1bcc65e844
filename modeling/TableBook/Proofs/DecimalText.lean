import TableBook.Proofs.Numeral

namespace TableBook

/-- What may stand in front of a number. -/
inductive Sign
  | none
  | plus
  | minus
deriving DecidableEq, Repr

namespace Sign

def text : Sign → List Char
  | .none => []
  | .plus => ['+']
  | .minus => ['-']

def isMinus : Sign → Bool
  | .minus => true
  | _ => false

theorem eq_of_mem_text {sign : Sign} {c : Char} (h : c ∈ sign.text) : c = '+' ∨ c = '-' := by
  cases sign with
  | none => cases h
  | plus => exact .inl (List.mem_singleton.mp h)
  | minus => exact .inr (List.mem_singleton.mp h)

end Sign

namespace Text

variable {p q : Char → Bool} {run rest cs : List Char}

theorem takeWhile_append_of_head (hrun : ∀ c ∈ run, p c = true)
    (hrest : ∀ c ∈ rest.head?, p c = false) : (run ++ rest).takeWhile p = run := by
  rw [List.takeWhile_append_of_pos hrun]
  cases rest with
  | nil => simp
  | cons c rest => simp [hrest c rfl]

theorem dropWhile_append_of_head (hrun : ∀ c ∈ run, p c = true)
    (hrest : ∀ c ∈ rest.head?, p c = false) : (run ++ rest).dropWhile p = rest := by
  rw [List.dropWhile_append_of_pos hrun]
  cases rest with
  | nil => rfl
  | cons c rest => simp [hrest c rfl]

theorem takeWhile_congr (h : ∀ c ∈ cs, p c = q c) :
    cs.takeWhile p = cs.takeWhile q ∧ cs.dropWhile p = cs.dropWhile q := by
  induction cs with
  | nil => exact ⟨rfl, rfl⟩
  | cons c cs ih =>
      rw [List.forall_mem_cons] at h
      rw [List.takeWhile_cons, List.takeWhile_cons, List.dropWhile_cons, List.dropWhile_cons,
        h.1, (ih h.2).1, (ih h.2).2]
      exact ⟨rfl, rfl⟩

/-- Every digit in the text is one of the ten ASCII ones. -/
def AsciiDigits (cs : List Char) : Prop :=
  ∀ c ∈ cs, isDecimalDigit c = true → c.isDigit = true

theorem AsciiDigits.of_subset {ds : List Char} (h : AsciiDigits cs) (hsub : ds ⊆ cs) :
    AsciiDigits ds :=
  fun c hc => h c (hsub hc)

theorem AsciiDigits.isDecimalDigit_eq (h : AsciiDigits cs) :
    ∀ c ∈ cs, isDecimalDigit c = c.isDigit := fun c hc =>
  Bool.eq_iff_iff.mpr ⟨h c hc, isDecimalDigit_of_isDigit⟩

theorem asciiDigits_of_lt (h : ∀ c ∈ cs, c.toNat < 128) : AsciiDigits cs := by
  intro c hc hdigit
  rwa [isDecimalDigit, if_pos (h c hc)] at hdigit

theorem lt_of_isDigit {c : Char} (h : c.isDigit = true) : c.toNat < 128 := by
  have hle : c.toNat ≤ '9'.toNat := UInt32.le_iff_toNat_le.mp (between_of_isDigit h).2
  exact Nat.lt_of_le_of_lt hle (by decide)

end Text

open Text

namespace Decimal

variable {cs : List Char} {negative : Bool} {d : Decimal}

theorem exists_sign (cs : List Char) : ∃ sign : Sign, cs = sign.text ++ (splitSign cs).2 := by
  unfold splitSign
  split
  · exact ⟨.minus, rfl⟩
  · exact ⟨.plus, rfl⟩
  · exact ⟨.none, rfl⟩

theorem splitSign_subset (cs : List Char) : (splitSign cs).2 ⊆ cs := by
  obtain ⟨sign, hcs⟩ := exists_sign cs
  intro c hc
  rw [hcs]
  exact List.mem_append_right _ hc

theorem splitSign_append (sign : Sign) (h : ∀ c ∈ cs.head?, c ≠ '-' ∧ c ≠ '+') :
    splitSign (sign.text ++ cs) = (sign.isMinus, cs) := by
  cases sign with
  | none =>
      change splitSign cs = (false, cs)
      unfold splitSign
      split
      · exact absurd rfl (h '-' rfl).1
      · exact absurd rfl (h '+' rfl).2
      · rfl
  | plus => rfl
  | minus => rfl

/-- A number starts with a digit or with its point. -/
theorem exists_cons_of_readUnsigned (h : readUnsigned negative cs = some d) :
    ∃ c rest, cs = c :: rest ∧ (c.isDigit = true ∨ c = '.') := by
  cases cs with
  | nil => cases h
  | cons c rest =>
      refine ⟨c, rest, rfl, ?_⟩
      by_contra hnot
      rw [not_or, Bool.not_eq_true] at hnot
      obtain ⟨hdigit, hpoint⟩ := hnot
      have hwhole : (c :: rest).takeWhile Char.isDigit = [] := by simp [hdigit]
      have hrest : (c :: rest).dropWhile Char.isDigit = c :: rest := by simp [hdigit]
      simp [readUnsigned, hwhole, hrest, hpoint] at h

end Decimal

/-- What reads as a decimal number is none of the words. -/
theorem Binary64.read_of_decimal {cs : List Char} {d : Decimal} (h : Decimal.read cs = some d) :
    Binary64.read cs = some d.nearest := by
  have hunsigned : Decimal.readUnsigned (Decimal.splitSign cs).1 (Decimal.splitSign cs).2 =
      some d := h
  obtain ⟨c, rest, hcs, hc⟩ := Decimal.exists_cons_of_readUnsigned hunsigned
  have hlower : c.toLower = c := by
    rcases hc with hdigit | rfl
    · exact toLower_of_isDigit hdigit
    · decide
  have hletter : c ≠ 'i' ∧ c ≠ 'n' := by
    constructor <;> rintro rfl <;> revert hc <;> decide
  rw [Binary64.read, h]
  simp only [hcs, List.map_cons, hlower]
  rw [if_neg, if_neg, Option.map_some]
  · exact fun hword => hletter.2 (List.cons.inj hword).1
  · rintro (hword | hword)
    · exact hletter.1 (List.cons.inj hword).1
    · exact hletter.1 (List.cons.inj hword).1

theorem Decimal.isNan_nearest (d : Decimal) : d.nearest.isNan = false := by
  have hratio : ∀ num den, (Binary64.ofRatio d.negative num den).isNan = false := by
    intro num den
    rw [Binary64.ofRatio, Binary64.ofUnits]
    split <;> rfl
  unfold nearest
  split_ifs
  · rfl
  · rfl
  · rfl
  · exact hratio _ _
  · exact hratio _ _

/-- A number in plain notation: a sign, digits, and a point with digits after it. An
empty fraction means that there is no point. -/
structure Numeral where
  sign : Sign
  whole : List Char
  fraction : List Char
  whole_ne_nil : whole ≠ []
  isDigit_whole : ∀ c ∈ whole, c.isDigit = true
  isDigit_fraction : ∀ c ∈ fraction, c.isDigit = true

namespace Numeral

def fractionText : List Char → List Char
  | [] => []
  | digits => '.' :: digits

def text (n : Numeral) : List Char := n.sign.text ++ (n.whole ++ fractionText n.fraction)

def decimal (n : Numeral) : Decimal :=
  ⟨n.sign.isMinus, natOfDigits (n.whole ++ n.fraction), -n.fraction.length⟩

/-- The nearest number to the one the digits write. -/
def value (n : Numeral) : Binary64 := n.decimal.nearest

variable (n : Numeral)

theorem isNan_value : n.value.isNan = false := n.decimal.isNan_nearest

theorem head?_fractionText {digits : List Char} {c : Char}
    (h : c ∈ (fractionText digits).head?) : c = '.' := by
  cases digits with
  | nil => cases h
  | cons d digits => exact (Option.some.inj h).symm

theorem splitSign_text :
    Decimal.splitSign n.text = (n.sign.isMinus, n.whole ++ fractionText n.fraction) := by
  refine Decimal.splitSign_append n.sign ?_
  obtain ⟨c, digits, hwhole⟩ := List.exists_cons_of_ne_nil n.whole_ne_nil
  have hdigit : c.isDigit = true := n.isDigit_whole c (by simp [hwhole])
  rw [hwhole]
  rintro _ ⟨rfl⟩
  constructor <;> rintro rfl <;> revert hdigit <;> decide

theorem takeWhile_unsigned :
    (n.whole ++ fractionText n.fraction).takeWhile Char.isDigit = n.whole :=
  takeWhile_append_of_head n.isDigit_whole fun _ hc => head?_fractionText hc ▸ by decide

theorem dropWhile_unsigned :
    (n.whole ++ fractionText n.fraction).dropWhile Char.isDigit = fractionText n.fraction :=
  dropWhile_append_of_head n.isDigit_whole fun _ hc => head?_fractionText hc ▸ by decide

theorem read_text : Decimal.read n.text = some n.decimal := by
  rw [Decimal.read, splitSign_text]
  simp only [Decimal.readUnsigned, takeWhile_unsigned, dropWhile_unsigned, decimal]
  have hwhole := n.whole_ne_nil
  have hfraction := n.isDigit_fraction
  cases h : n.fraction with
  | nil => simp [fractionText, hwhole, Decimal.readExponent]
  | cons c digits =>
      rw [h] at hfraction
      simp only [fractionText, List.takeWhile_eq_self_iff.mpr hfraction,
        List.dropWhile_eq_nil_iff.mpr hfraction]
      simp [Decimal.readExponent]

theorem read_text_eq_value : Binary64.read n.text = some n.value :=
  Binary64.read_of_decimal n.read_text

variable {n : Numeral} {c : Char}

theorem mem_fractionText {digits : List Char} (h : c ∈ fractionText digits) :
    c = '.' ∨ c ∈ digits := by
  cases digits with
  | nil => cases h
  | cons d digits => exact List.mem_cons.mp h

theorem mem_text (h : c ∈ n.text) : c.isDigit = true ∨ c = '+' ∨ c = '-' ∨ c = '.' := by
  rcases List.mem_append.mp h with hsign | h
  · rcases Sign.eq_of_mem_text hsign with rfl | rfl <;> decide
  rcases List.mem_append.mp h with hwhole | hfraction
  · exact .inl (n.isDigit_whole c hwhole)
  · rcases mem_fractionText hfraction with rfl | hdigit
    · decide
    · exact .inl (n.isDigit_fraction c hdigit)

theorem isBlank_of_mem_text (h : c ∈ n.text) : isBlank c = false := by
  rcases mem_text h with hdigit | rfl | rfl | rfl
  · exact isBlank_of_between (between_of_isDigit hdigit) (by decide) (by decide)
  · decide
  · decide
  · decide

theorem colon_notMem_text : ':' ∉ n.text :=
  fun h => absurd (mem_text h) (by decide)

end Numeral

namespace Decimal

variable {cs : List Char} {negative : Bool} {d : Decimal} {power : Int}

/-- The sign is in ASCII. -/
theorem lt_of_splitSign (h : ∀ c ∈ (splitSign cs).2, c.toNat < 128) : ∀ c ∈ cs, c.toNat < 128 := by
  obtain ⟨sign, hcs⟩ := exists_sign cs
  intro c hc
  rw [hcs] at hc
  rcases List.mem_append.mp hc with hsign | hrest
  · rcases Sign.eq_of_mem_text hsign with rfl | rfl <;> decide
  · exact h c hrest

theorem lt_of_readExponent (h : readExponent cs = some power) : ∀ c ∈ cs, c.toNat < 128 := by
  cases cs with
  | nil => exact List.forall_mem_nil _
  | cons e cs =>
      rw [readExponent] at h
      split at h
      · next he =>
          dsimp only at h
          split at h
          · cases h
          · next hdigits =>
              simp only [Bool.or_eq_true, not_or, Bool.not_eq_true', Bool.not_eq_false,
                List.all_eq_true] at hdigits
              refine List.forall_mem_cons.mpr ⟨?_, ?_⟩
              · rcases he with rfl | rfl <;> decide
              · exact lt_of_splitSign fun c hc => lt_of_isDigit (hdigits.2 c hc)
      · cases h

theorem lt_of_readUnsigned (h : readUnsigned negative cs = some d) :
    ∀ c ∈ cs, c.toNat < 128 := by
  intro c hc
  rcases mem_dropWhile_of_mem (p := Char.isDigit) hc with hwhole | htail
  · exact lt_of_isDigit hwhole
  simp only [readUnsigned] at h
  generalize cs.dropWhile Char.isDigit = tail at h htail
  split at h
  · next after =>
      split at h
      · cases h
      obtain ⟨power, hpower, -⟩ := Option.map_eq_some_iff.mp h
      rcases List.mem_cons.mp htail with rfl | hafter
      · decide
      rcases mem_dropWhile_of_mem (p := Char.isDigit) hafter with hdigit | hexponent
      · exact lt_of_isDigit hdigit
      · exact lt_of_readExponent hpower c hexponent
  · split at h
    · cases h
    obtain ⟨power, hpower, -⟩ := Option.map_eq_some_iff.mp h
    exact lt_of_readExponent hpower c htail

end Decimal

theorem toNat_lt_of_toLower {c : Char} (h : c.toLower.toNat < 128) : c.toNat < 128 := by
  by_cases hcapital : c ≥ 'A' ∧ c ≤ 'Z'
  · have hle : c.toNat ≤ 'Z'.toNat := UInt32.le_iff_toNat_le.mp hcapital.2
    exact Nat.lt_of_le_of_lt hle (by decide)
  · have hlower : c.toLower = c := dif_neg hcapital
    rwa [hlower] at h

/-- All that is read as a number is written in ASCII. -/
theorem Binary64.lt_of_read {cs : List Char} {x : Binary64} (h : Binary64.read cs = some x) :
    ∀ c ∈ cs, c.toNat < 128 := by
  have hword : ∀ {word : String}, word.toList.all (·.toNat < 128) = true →
      (Decimal.splitSign cs).2.map Char.toLower = word.toList →
      ∀ c ∈ (Decimal.splitSign cs).2, c.toNat < 128 := by
    intro word hascii heq c hc
    have hlower : c.toLower ∈ word.toList := by
      rw [← heq]
      exact List.mem_map_of_mem hc
    exact toNat_lt_of_toLower (of_decide_eq_true (List.all_eq_true.mp hascii _ hlower))
  refine Decimal.lt_of_splitSign ?_
  simp only [Binary64.read] at h
  split at h
  · next hinfinite =>
      rcases hinfinite with hinf | hinfinity
      · exact hword (by decide) hinf
      · exact hword (by decide) hinfinity
  · split at h
    · next hnan => exact hword (by decide) hnan
    · obtain ⟨d, hd, -⟩ := Option.map_eq_some_iff.mp h
      exact Decimal.lt_of_readUnsigned hd

namespace Grammar

variable {cs rest : List Char} {negative : Bool}

theorem isSome_readExponent (hdigits : AsciiDigits cs) (h : isPower cs = true) :
    (Decimal.readExponent cs).isSome = true := by
  cases cs with
  | nil => rfl
  | cons e cs =>
      simp only [isPower, Bool.and_eq_true, Bool.or_eq_true, beq_iff_eq, Bool.not_eq_true',
        List.all_eq_true] at h
      obtain ⟨he, hne, hall⟩ := h
      have hascii : ∀ c ∈ (Decimal.splitSign cs).2, c.isDigit = true := fun c hc =>
        hdigits c (List.mem_cons_of_mem _ (Decimal.splitSign_subset cs hc)) (hall c hc)
      rw [Decimal.readExponent, if_pos he]
      simp [hne, List.all_eq_true.mpr hascii]

theorem isSome_readUnsigned (hdigits : AsciiDigits cs) (hrest : numeralRest cs = some rest)
    (hpower : isPower rest = true) : (Decimal.readUnsigned negative cs).isSome = true := by
  -- The grammar and the reader cut the text into the same runs of digits.
  obtain ⟨hwhole, htail⟩ := takeWhile_congr hdigits.isDecimalDigit_eq
  have hsub : cs.dropWhile Char.isDigit ⊆ cs := (List.dropWhile_suffix _).subset
  simp only [numeralRest, hwhole, htail] at hrest
  simp only [Decimal.readUnsigned]
  generalize cs.dropWhile Char.isDigit = tail at hrest hsub
  have hdigits' : AsciiDigits tail := hdigits.of_subset hsub
  split at hrest
  · next after =>
      have hafter : AsciiDigits after := hdigits'.of_subset (List.subset_cons_self _ _)
      obtain ⟨hfraction, hend⟩ := takeWhile_congr hafter.isDecimalDigit_eq
      rw [hfraction, hend] at hrest
      split at hrest
      · cases hrest
      · next hne =>
          obtain rfl := Option.some.inj hrest
          have hexponent := isSome_readExponent
            (hafter.of_subset (List.dropWhile_suffix _).subset) hpower
          simp only [hne, Bool.false_eq_true, if_false, Option.isSome_map, hexponent]
  · next hpoint =>
      split at hrest
      · cases hrest
      · next hne =>
          obtain rfl := Option.some.inj hrest
          simp [hne, isSome_readExponent hdigits' hpower]

/-- What the grammar takes for a number is read as one exactly if its digits are ASCII
ones. -/
theorem isSome_read_iff (h : isNumeric cs = true) :
    (Binary64.read (trim cs)).isSome = true ↔ AsciiDigits (trim cs) := by
  constructor
  · intro hsome
    obtain ⟨x, hx⟩ := Option.isSome_iff_exists.mp hsome
    exact asciiDigits_of_lt (Binary64.lt_of_read hx)
  · intro hdigits
    have hunsigned : AsciiDigits (Decimal.splitSign (trim cs)).2 :=
      hdigits.of_subset (Decimal.splitSign_subset _)
    rw [isNumeric] at h
    split at h
    · next rest hrest =>
        obtain ⟨d, hd⟩ := Option.isSome_iff_exists.mp
          (isSome_readUnsigned hunsigned hrest h)
        have hread : Decimal.read (trim cs) = some d := hd
        rw [Binary64.read_of_decimal hread]
        rfl
    · cases h

end Grammar

end TableBook
