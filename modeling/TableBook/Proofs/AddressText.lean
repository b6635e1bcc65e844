import TableBook.Proofs.Bounds
import TableBook.Proofs.ColumnLetters
import TableBook.Proofs.NumberLocale

/-!
Addresses as text. What is read as an address is described by its spellings: letters and
digits, either behind a dollar sign or not, and blanks around them. The address is printed in
one of them. The reading by byte positions cuts the text between characters only, so it always
has an answer, and it is that of the reading by characters.
-/

namespace TableBook

open Text

/-- Nothing but blanks is trimmed off, at either end. -/
theorem Text.exists_append_trim (cs : List Char) :
    ∃ before after, (∀ c ∈ before, isBlank c = true) ∧ (∀ c ∈ after, isBlank c = true) ∧
      cs = before ++ (trim cs ++ after) := by
  have hall : ∀ ds : List Char, ∀ c ∈ ds.takeWhile isBlank, isBlank c = true :=
    fun ds => List.all_eq_true.mp List.all_takeWhile
  refine ⟨cs.takeWhile isBlank, ((cs.dropWhile isBlank).reverse.takeWhile isBlank).reverse,
    hall cs, ?_, ?_⟩
  · intro c hc
    exact hall _ c (List.mem_reverse.mp hc)
  · rw [trim, stripWith, ← List.reverse_append, List.takeWhile_append_dropWhile,
      List.reverse_reverse, List.takeWhile_append_dropWhile]

section Bytes

variable {c : Char} {cs : List Char}

theorem utf8EncodeChar_of_lt (h : c.toNat < 128) :
    String.utf8EncodeChar c = [UInt8.ofNat c.toNat] :=
  if_pos (Nat.le_of_lt_succ h)

theorem le_of_mem_utf8EncodeChar (h : ¬c.toNat < 128) {b : UInt8}
    (hb : b ∈ String.utf8EncodeChar c) : 128 ≤ b.toNat := by
  have hlarge : ¬c.val.toNat ≤ 127 := by
    change ¬c.toNat ≤ 127
    omega
  simp only [String.utf8EncodeChar, hlarge, if_false] at hb
  split at hb
  · simp only [List.mem_cons, List.not_mem_nil, or_false] at hb
    rcases hb with rfl | rfl <;> simp only [UInt8.toNat_ofNat'] <;> omega
  · split at hb
    · simp only [List.mem_cons, List.not_mem_nil, or_false] at hb
      rcases hb with rfl | rfl | rfl <;> simp only [UInt8.toNat_ofNat'] <;> omega
    · simp only [List.mem_cons, List.not_mem_nil, or_false] at hb
      rcases hb with rfl | rfl | rfl | rfl <;> simp only [UInt8.toNat_ofNat'] <;> omega

/-- A class of ASCII bytes is one of ASCII characters. -/
theorem Text.takeWhile_bytes {p : UInt8 → Bool} {q : Char → Bool}
    (hp : ∀ b, p b = true → b.toNat < 128)
    (hq : ∀ c, q c = true ↔ c.toNat < 128 ∧ p (UInt8.ofNat c.toNat) = true) :
    (bytes cs).takeWhile p = bytes (cs.takeWhile q) := by
  induction cs with
  | nil => rfl
  | cons c cs ih =>
      by_cases hsmall : c.toNat < 128
      · rw [bytes_cons, utf8EncodeChar_of_lt hsmall, List.singleton_append, List.takeWhile_cons,
          List.takeWhile_cons, ih]
        by_cases hc : p (UInt8.ofNat c.toNat) = true
        · rw [if_pos hc, if_pos ((hq c).mpr ⟨hsmall, hc⟩), bytes_cons, utf8EncodeChar_of_lt hsmall]
          rfl
        · rw [if_neg hc, if_neg (fun h => hc ((hq c).mp h).2)]
          rfl
      · obtain ⟨b, bs, hbytes⟩ := List.exists_cons_of_ne_nil (String.utf8EncodeChar_ne_nil (c := c))
        have hb : ¬p b = true := by
          intro h
          have hle := le_of_mem_utf8EncodeChar hsmall (hbytes ▸ List.mem_cons_self)
          exact absurd (hp b h) (Nat.not_lt.mpr hle)
        rw [bytes_cons, hbytes, List.cons_append, List.takeWhile_cons, if_neg hb,
          List.takeWhile_cons, if_neg (fun h => hsmall ((hq c).mp h).1)]
        rfl

theorem head?_bytes_eq_dollar_iff : (bytes cs).head? = some 36 ↔ cs.head? = some '$' := by
  cases cs with
  | nil => simp
  | cons c cs =>
      rw [bytes_cons, List.head?_cons, Option.some.injEq]
      by_cases hsmall : c.toNat < 128
      · rw [utf8EncodeChar_of_lt hsmall, List.singleton_append, List.head?_cons, Option.some.injEq]
        constructor
        · intro h
          have hnat := congrArg UInt8.toNat h
          rw [UInt8.toNat_ofNat', Nat.mod_eq_of_lt (by omega)] at hnat
          exact Char.toNat_inj.mp hnat
        · rintro rfl
          rfl
      · obtain ⟨b, bs, hbytes⟩ := List.exists_cons_of_ne_nil (String.utf8EncodeChar_ne_nil (c := c))
        rw [hbytes, List.cons_append, List.head?_cons, Option.some.injEq]
        constructor
        · rintro rfl
          exact absurd (le_of_mem_utf8EncodeChar hsmall (hbytes ▸ List.mem_cons_self)) (by decide)
        · rintro rfl
          exact absurd (by decide) hsmall

end Bytes

namespace Address

section Marks

variable {cs before : List Char}

/-- A dollar sign, or nothing. -/
def mark (fixed : Bool) : List Char := if fixed then ['$'] else []

/-- The dollar sign that a text starts with, if it does. -/
def markOf (cs : List Char) : List Char := mark (cs.head? == some '$')

theorem dropMark_mark_append (fixed : Bool) (h : cs.head? ≠ some '$') :
    dropMark (mark fixed ++ cs) = cs := by
  cases fixed with
  | true => rfl
  | false =>
      change dropMark cs = cs
      unfold dropMark
      split
      · exact absurd rfl h
      · rfl

theorem markOf_append_dropMark (cs : List Char) : markOf cs ++ dropMark cs = cs := by
  by_cases h : cs.head? = some '$'
  · obtain ⟨rest, rfl⟩ := List.head?_eq_some_iff.mp h
    rfl
  · have hmark : markOf cs = [] := by simp [markOf, mark, h]
    rw [hmark]
    exact dropMark_mark_append false h

theorem skipMark_bytes (before cs : List Char) :
    skipMark (bytes (before ++ cs)) (bytes before).length =
      (bytes (before ++ markOf cs)).length := by
  have hbyte : (bytes (before ++ cs))[(bytes before).length]? = (bytes cs).head? := by
    rw [bytes_append, List.getElem?_append_right (Nat.le_refl _), Nat.sub_self,
      List.head?_eq_getElem?]
  rw [skipMark, hbyte, markOf]
  by_cases h : cs.head? = some '$'
  · rw [if_pos (head?_bytes_eq_dollar_iff.mpr h), h, bytes_append, List.length_append]
    rfl
  · rw [if_neg (fun h' => h (head?_bytes_eq_dollar_iff.mp h')), beq_eq_false_iff_ne.mpr h, mark,
      if_neg Bool.false_ne_true, List.append_nil]

theorem skipLetters_bytes (before cs : List Char) :
    skipLetters (bytes (before ++ cs)) (bytes before).length =
      (bytes (before ++ cs.takeWhile Char.isAlpha)).length := by
  have hascii : ∀ b, isLetterByte b = true → b.toNat < 128 := by
    intro b hb
    simp only [isLetterByte, Bool.or_eq_true, Bool.and_eq_true, decide_eq_true_eq,
      UInt8.le_iff_toNat_le] at hb
    have h90 : (90 : UInt8).toNat = 90 := rfl
    have h122 : (122 : UInt8).toNat = 122 := rfl
    omega
  have hletter : ∀ c : Char,
      c.isAlpha = true ↔ c.toNat < 128 ∧ isLetterByte (UInt8.ofNat c.toNat) = true := by
    intro c
    constructor
    · exact forall_isAlpha
        (p := fun c => c.toNat < 128 ∧ isLetterByte (UInt8.ofNat c.toNat) = true) (by decide)
    · rintro ⟨hsmall, hbyte⟩
      exact forall_ascii (p := fun c => isLetterByte (UInt8.ofNat c.toNat) = true →
        c.isAlpha = true) (by decide) hsmall hbyte
  rw [skipLetters, bytes_append, List.drop_left, takeWhile_bytes hascii hletter, bytes_append,
    List.length_append]

end Marks

/-- The positions at which the text is cut are all between characters: they are the ends of
the dollar signs and of the letters. -/
theorem scan?_eq_some_parse (cs : List Char) : scan? cs = some (parse cs) := by
  rw [scan?, parse]
  generalize trim cs = cs
  have hsplit : markOf cs ++ dropMark cs = cs := markOf_append_dropMark cs
  generalize dropMark cs = afterMark at hsplit ⊢
  generalize hletters : afterMark.takeWhile Char.isAlpha = letters
  generalize hrest : afterMark.dropWhile Char.isAlpha = rest
  have hafter : letters ++ rest = afterMark := by
    rw [← hletters, ← hrest]
    exact List.takeWhile_append_dropWhile
  have hstart : skipMark (bytes cs) 0 = (bytes (markOf cs)).length := skipMark_bytes [] cs
  have hstop : skipLetters (bytes cs) (bytes (markOf cs)).length =
      (bytes (markOf cs ++ letters)).length := by
    have h := skipLetters_bytes (markOf cs) afterMark
    rwa [hsplit, hletters] at h
  have hslice : slice? cs (bytes (markOf cs)).length (bytes (markOf cs ++ letters)).length =
      some letters := by
    have h := slice?_append (markOf cs) letters rest
    rwa [hafter, hsplit] at h
  have hcut : cutAt? cs (skipMark (bytes cs) (bytes (markOf cs ++ letters)).length) =
      some (markOf cs ++ letters ++ markOf rest, dropMark rest) := by
    have hcs : markOf cs ++ letters ++ rest = cs := by rw [List.append_assoc, hafter, hsplit]
    have hskip := skipMark_bytes (markOf cs ++ letters) rest
    have h := cutAt?_append (markOf cs ++ letters ++ markOf rest) (dropMark rest)
    rw [hcs] at hskip
    rwa [List.append_assoc (markOf cs ++ letters), markOf_append_dropMark, hcs, ← hskip] at h
  have hsame : (bytes (markOf cs ++ letters)).length = (bytes (markOf cs)).length ↔
      letters = [] := by
    rw [bytes_append, List.length_append, Nat.add_eq_left, List.length_eq_zero_iff]
    cases letters with
    | nil => simp
    | cons c letters => simp [bytes_cons, String.utf8EncodeChar_ne_nil]
  dsimp only
  rw [hstart, hstop, hslice, hcut, hletters, hrest]
  split
  · rfl
  · by_cases hnil : letters = []
    · rw [if_pos (hsame.mpr hnil), if_pos (List.isEmpty_iff.mpr hnil)]
    · rw [if_neg (fun h => hnil (hsame.mp h)), if_neg (fun h => hnil (List.isEmpty_iff.mp h)),
        Option.bind_some]
      cases columnOfLetters letters with
      | error fault => rfl
      | ok column => rfl

section Digits

variable {digits : List Char} {c : Char} {n row : Nat} {text : String}

theorem digitChar_of_isDigit (h : c.isDigit = true) :
    c.toNat - '0'.toNat < 10 ∧ Nat.digitChar (c.toNat - '0'.toNat) = c :=
  forall_ascii (p := fun c => c.isDigit = true →
    c.toNat - '0'.toNat < 10 ∧ Nat.digitChar (c.toNat - '0'.toNat) = c) (by decide)
    (lt_of_isDigit h) h

theorem toDigits_ofDigitChars_of_pos (h : ∀ c ∈ digits, c.isDigit = true) (hpos : 0 < n) :
    Nat.toDigits 10 (Nat.ofDigitChars 10 digits n) = Nat.toDigits 10 n ++ digits := by
  induction digits generalizing n with
  | nil => rw [Nat.ofDigitChars_nil, List.append_nil]
  | cons c digits ih =>
      rw [List.forall_mem_cons] at h
      obtain ⟨hdigit, hchar⟩ := digitChar_of_isDigit h.1
      rw [Nat.ofDigitChars_cons, ih h.2 (by omega), ← Nat.toDigits_append_toDigits (by decide) hpos
        hdigit, Nat.toDigits_of_lt_base hdigit, hchar, List.append_assoc, List.singleton_append]

theorem toDigits_ofDigitChars (h : ∀ c ∈ digits, c.isDigit = true)
    (hpos : 0 < Nat.ofDigitChars 10 digits 0) :
    Nat.toDigits 10 (Nat.ofDigitChars 10 digits 0) = digits.dropWhile (· == '0') := by
  induction digits with
  | nil => exact absurd hpos (Nat.lt_irrefl 0)
  | cons c digits ih =>
      rw [List.forall_mem_cons] at h
      obtain ⟨hdigit, hchar⟩ := digitChar_of_isDigit h.1
      rw [Nat.ofDigitChars_cons, Nat.mul_zero, Nat.zero_add] at hpos ⊢
      by_cases hzero : c = '0'
      · subst hzero
        exact ih h.2 hpos
      · -- From the first other digit on nothing is dropped.
        have hvalue : 0 < c.toNat - '0'.toNat := by
          refine Nat.pos_of_ne_zero fun hvalue => hzero ?_
          rw [← hchar, hvalue]
          rfl
        rw [toDigits_ofDigitChars_of_pos h.2 hvalue, Nat.toDigits_of_lt_base hdigit, hchar,
          List.singleton_append, List.dropWhile_cons, if_neg (by simpa using hzero)]

theorem readRow_eq_ok_iff :
    readRow text digits = .ok row ↔
      digits ≠ [] ∧ (∀ c ∈ digits, c.isDigit = true) ∧ Nat.ofDigitChars 10 digits 0 = row ∧
        1 ≤ row ∧ row ≤ maxRows := by
  constructor
  · intro h
    obtain ⟨hpos, hle⟩ := readRow_bounds h
    rw [readRow] at h
    split at h
    · cases h
    · split at h
      · cases h
      · next number hword =>
          obtain ⟨hne, hdigits, hnumber⟩ := readWord_eq_some hword
          split at h
          · cases h
          · split at h
            · cases h
              exact ⟨hne, hdigits, hnumber, hpos, hle⟩
            · cases h
  · rintro ⟨hne, hdigits, hnumber, hpos, hle⟩
    have hlimit : row < wordLimit := Nat.lt_of_le_of_lt hle (by decide)
    have hword : readWord digits = some row := by
      have hvalue : natOfDigits digits = row := hnumber
      simp [readWord, hvalue, hlimit, hne, List.all_eq_true.mpr hdigits]
    simp [readRow, hne, hword, Nat.ne_of_gt hpos, hle]

end Digits

/-- An address as it may be written: letters and digits, either behind a dollar sign or not. -/
structure Spelling where
  fixedColumn : Bool
  letters : List Char
  fixedRow : Bool
  digits : List Char
  areLetters : AreLetters letters
  digits_ne_nil : digits ≠ []
  areDigits : ∀ c ∈ digits, c.isDigit = true

namespace Spelling

variable {cs : List Char} {a : Address}

def text (w : Spelling) : List Char :=
  mark w.fixedColumn ++ (w.letters ++ (mark w.fixedRow ++ w.digits))

/-- The address that is written, also one that no sheet has. -/
def address (w : Spelling) : Address := ⟨Nat.ofDigitChars 10 w.digits 0, numberOf w.letters⟩

/-- A text is the spelling, but for blanks around it. -/
def IsIn (w : Spelling) (cs : List Char) : Prop :=
  ∃ before after, (∀ c ∈ before, isBlank c = true) ∧ (∀ c ∈ after, isBlank c = true) ∧
    cs = before ++ (w.text ++ after)

variable (w : Spelling)

theorem mem_text {c : Char} (h : c ∈ w.text) : c = '$' ∨ c.isAlpha = true ∨ c.isDigit = true := by
  have hmark : ∀ fixed, c ∈ mark fixed → c = '$' := by
    intro fixed hc
    cases fixed with
    | true => exact List.mem_singleton.mp hc
    | false => cases hc
  simp only [text, List.mem_append] at h
  rcases h with hc | hc | hc | hc
  · exact .inl (hmark _ hc)
  · exact .inr (.inl (w.areLetters.2 c hc))
  · exact .inl (hmark _ hc)
  · exact .inr (.inr (w.areDigits c hc))

theorem isBlank_of_mem_text {c : Char} (h : c ∈ w.text) : isBlank c = false := by
  rcases w.mem_text h with rfl | halpha | hdigit
  · decide
  · exact forall_isAlpha (p := fun c => isBlank c = false) (by decide) halpha
  · exact isBlank_of_between (between_of_isDigit hdigit) (by decide) (by decide)

theorem text_ne_nil : w.text ≠ [] := by
  simp [text, w.digits_ne_nil]

theorem filter_text : w.text.filter (· != '$') = w.letters ++ w.digits := by
  have hmark : ∀ fixed, (mark fixed).filter (· != '$') = [] := by decide
  have hletters : w.letters.filter (· != '$') = w.letters := by
    refine List.filter_eq_self.mpr fun c hc => ?_
    exact forall_isAlpha (p := fun c => (c != '$') = true) (by decide) (w.areLetters.2 c hc)
  have hdigits : w.digits.filter (· != '$') = w.digits := by
    refine List.filter_eq_self.mpr fun c hc => ?_
    have hdigit := w.areDigits c hc
    rw [bne_iff_ne]
    rintro rfl
    exact absurd hdigit (by decide)
  simp only [text, List.filter_append, hmark, hletters, hdigits, List.nil_append]

theorem isAlpha_of_head? : ∀ c ∈ (mark w.fixedRow ++ w.digits).head?, c.isAlpha = false := by
  intro c hc
  cases hfixed : w.fixedRow with
  | true =>
      rw [hfixed] at hc
      obtain rfl := Option.some.inj hc
      rfl
  | false =>
      rw [hfixed] at hc
      have hdigit := w.areDigits c (List.mem_of_mem_head? hc)
      exact forall_ascii (p := fun c => c.isDigit = true → c.isAlpha = false) (by decide)
        (lt_of_isDigit hdigit) hdigit

variable {w}

theorem trim_of_isIn (h : w.IsIn cs) : trim cs = w.text := by
  obtain ⟨before, after, hbefore, hafter, rfl⟩ := h
  refine trim_append_blanks hbefore hafter w.text_ne_nil ?_ ?_
  · intro c hc
    exact w.isBlank_of_mem_text (List.mem_of_mem_head? hc)
  · intro c hc
    exact w.isBlank_of_mem_text (List.mem_of_getLast? hc)

theorem parse_of_isIn (h : w.IsIn cs) (hbounds : w.address.InBounds) :
    parse cs = .ok w.address := by
  obtain ⟨hrow, hrow', -, hcolumn⟩ := hbounds
  have hreadColumn : columnOfLetters w.letters = .ok (numberOf w.letters) := by
    rw [columnOfLetters_eq w.areLetters]
    exact if_pos hcolumn
  have hreadRow : readRow (String.ofList w.text) w.digits = .ok (Nat.ofDigitChars 10 w.digits 0) :=
    readRow_eq_ok_iff.mpr ⟨w.digits_ne_nil, w.areDigits, rfl, hrow, hrow'⟩
  have hdigits : w.digits.head? ≠ some '$' := by
    intro hhead
    exact absurd (w.areDigits '$' (List.mem_of_mem_head? hhead)) (by decide)
  have hletters : (w.letters ++ (mark w.fixedRow ++ w.digits)).head? ≠ some '$' := by
    intro hhead
    rw [List.head?_append_of_ne_nil _ w.areLetters.1] at hhead
    exact absurd (w.areLetters.2 '$' (List.mem_of_mem_head? hhead)) (by decide)
  have hmark : dropMark w.text = w.letters ++ (mark w.fixedRow ++ w.digits) :=
    dropMark_mark_append _ hletters
  have hne : w.letters.isEmpty = false := by simpa using w.areLetters.1
  have htext : w.text.isEmpty = false := by simpa using w.text_ne_nil
  simp only [parse, trim_of_isIn h, htext, hmark,
    takeWhile_append_of_head w.areLetters.2 w.isAlpha_of_head?,
    dropWhile_append_of_head w.areLetters.2 w.isAlpha_of_head?, dropMark_mark_append _ hdigits, hne,
    Bool.false_eq_true, if_false, hreadColumn, hreadRow]
  rfl

theorem exists_of_parse (h : parse cs = .ok a) : ∃ w : Spelling, w.IsIn cs ∧ w.address = a := by
  obtain ⟨before, after, hbefore, hafter, hcs⟩ := exists_append_trim cs
  simp only [parse] at h
  generalize trim cs = trimmed at h hcs
  have hmark : markOf trimmed ++ dropMark trimmed = trimmed := markOf_append_dropMark trimmed
  generalize dropMark trimmed = afterMark at h hmark
  split at h
  · cases h
  split at h
  · cases h
  split at h
  · cases h
  next column hcolumn =>
    split at h
    · cases h
    next row hrow =>
      cases h
      obtain ⟨hletters, hnumber, -⟩ := columnOfLetters_eq_ok_iff.mp hcolumn
      obtain ⟨hne, hdigits, hvalue, -⟩ := readRow_eq_ok_iff.mp hrow
      -- The parts that the reader cuts off, put together again, are the text.
      let w : Spelling := ⟨trimmed.head? == some '$', afterMark.takeWhile Char.isAlpha,
        (afterMark.dropWhile Char.isAlpha).head? == some '$',
        dropMark (afterMark.dropWhile Char.isAlpha), hletters, hne, hdigits⟩
      have htext : w.text = trimmed := by
        change markOf trimmed ++ (afterMark.takeWhile Char.isAlpha ++
          (markOf (afterMark.dropWhile Char.isAlpha) ++
            dropMark (afterMark.dropWhile Char.isAlpha))) = trimmed
        rw [markOf_append_dropMark, List.takeWhile_append_dropWhile, hmark]
      refine ⟨w, ⟨before, after, hbefore, hafter, htext.symm ▸ hcs⟩, ?_⟩
      change (⟨Nat.ofDigitChars 10 _ 0, numberOf _⟩ : Address) = ⟨row, column⟩
      rw [hvalue, hnumber]

theorem text_address (w : Spelling) (hrow : 1 ≤ w.address.row) :
    w.address.text.toList = w.letters.map Char.toUpper ++ w.digits.dropWhile (· == '0') := by
  rw [Address.text, String.toList_append, String.toList_ofList, Nat.toString_eq_repr,
    Nat.toList_repr]
  exact congrArg₂ (· ++ ·) (columnLetters_numberOf w.areLetters.2)
    (toDigits_ofDigitChars w.areDigits hrow)

end Spelling

theorem exists_spelling_text {a : Address} (h : a.InBounds) :
    ∃ w : Spelling, w.text = a.text.toList ∧ w.address = a := by
  refine ⟨⟨false, columnLetters a.column, false, Nat.toDigits 10 a.row,
    areLetters_columnLetters h.2.2.1, Nat.toDigits_ne_nil, ?_⟩, ?_, ?_⟩
  · intro c hc
    exact Nat.isDigit_of_mem_toDigits (by decide) (by decide) hc
  · rw [Address.text, String.toList_append, String.toList_ofList, Nat.toString_eq_repr,
      Nat.toList_repr]
    rfl
  · rw [Spelling.address, Nat.ofDigitChars_ten_toDigits, (numberOf_columnLetters a.column).2]

/-- A text is read as an address if and only if it is a spelling of this address with blanks or
nothing around it, and a sheet has the address; the reading by byte positions always has an
answer, and the same one. The address is printed as its spelling without dollar signs, with the
letters in capitals and no zeros in front of the digits. What is printed of an address that a
sheet has is read as this address. -/
theorem parse_and_print :
    (∀ cs a, parse cs = .ok a ↔ ∃ w : Spelling, w.IsIn cs ∧ w.address = a ∧ a.InBounds) ∧
    (∀ cs, scan? cs = some (parse cs)) ∧
    (∀ cs a, parse cs = .ok a → ∃ letters digits,
      (trim cs).filter (· != '$') = letters ++ digits ∧
        (∀ c ∈ letters, c.isAlpha = true) ∧ (∀ c ∈ digits, c.isDigit = true) ∧
          a.text.toList = letters.map Char.toUpper ++ digits.dropWhile (· == '0')) ∧
    ∀ a : Address, a.InBounds → parse a.text.toList = .ok a := by
  refine ⟨?_, scan?_eq_some_parse, ?_, ?_⟩
  · intro cs a
    constructor
    · intro h
      obtain ⟨w, hin, haddress⟩ := Spelling.exists_of_parse h
      exact ⟨w, hin, haddress, inBounds_of_parse h⟩
    · rintro ⟨w, hin, rfl, hbounds⟩
      exact Spelling.parse_of_isIn hin hbounds
  · intro cs a h
    obtain ⟨w, hin, rfl⟩ := Spelling.exists_of_parse h
    refine ⟨w.letters, w.digits, ?_, w.areLetters.2, w.areDigits,
      w.text_address (inBounds_of_parse h).1⟩
    rw [Spelling.trim_of_isIn hin, w.filter_text]
  · intro a h
    obtain ⟨w, htext, rfl⟩ := exists_spelling_text h
    refine Spelling.parse_of_isIn ⟨[], [], ?_, ?_, ?_⟩ h
    · exact List.forall_mem_nil _
    · exact List.forall_mem_nil _
    · rw [List.nil_append, List.append_nil, htext]

/-- Blanks, dollar signs, small letters and zeros in front of the row; the last cell of a
sheet. -/
theorem parse_and_print_dollar :
    parse " $ab$0012\n".toList = .ok ⟨12, 28⟩ ∧
      (∃ letters digits, (trim " $ab$0012\n".toList).filter (· != '$') = letters ++ digits ∧
        (∀ c ∈ letters, c.isAlpha = true) ∧ (∀ c ∈ digits, c.isDigit = true) ∧
          (⟨12, 28⟩ : Address).text.toList =
            letters.map Char.toUpper ++ digits.dropWhile (· == '0')) ∧
      (⟨1048576, 16384⟩ : Address).InBounds ∧
        parse (⟨1048576, 16384⟩ : Address).text.toList = .ok ⟨1048576, 16384⟩ := by
  have hparse : parse " $ab$0012\n".toList = .ok ⟨12, 28⟩ := by decide
  have hlast : (⟨1048576, 16384⟩ : Address).InBounds := by decide
  exact ⟨hparse, parse_and_print.2.2.1 _ _ hparse, hlast, parse_and_print.2.2.2 _ hlast⟩

end Address

end TableBook
