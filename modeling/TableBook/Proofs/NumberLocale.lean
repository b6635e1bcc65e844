import TableBook.Cell.Reading
import TableBook.Proofs.DecimalText
import TableBook.SheetName

namespace TableBook

open Text

section Characters

variable {c : Char} {cs before after : List Char}

/-- Blanks around a text are trimmed off, and no more if its ends are not blank. -/
theorem Text.trim_append_blanks (hbefore : ∀ c ∈ before, isBlank c = true)
    (hafter : ∀ c ∈ after, isBlank c = true) (hne : cs ≠ [])
    (hhead : ∀ c ∈ cs.head?, isBlank c = false) (hlast : ∀ c ∈ cs.getLast?, isBlank c = false) :
    trim (before ++ (cs ++ after)) = cs := by
  have hfront : (before ++ (cs ++ after)).dropWhile isBlank = cs ++ after := by
    refine dropWhile_append_of_head hbefore ?_
    rw [List.head?_append, Option.or_of_isSome (List.isSome_head?.mpr hne)]
    exact hhead
  have hback : (after.reverse ++ cs.reverse).dropWhile isBlank = cs.reverse := by
    refine dropWhile_append_of_head ?_ ?_
    · intro c hc
      exact hafter c (List.mem_reverse.mp hc)
    · rw [List.head?_reverse]
      exact hlast
  rw [trim, stripWith, hfront, List.reverse_append, hback, List.reverse_reverse]

/-- An ASCII letter is that of its small letter, or its capital. -/
theorem eq_or_eq_toUpper_of_toLower {letter : Char} (h : c.toLower = letter)
    (hletter : letter.toNat < 128) : c = letter ∨ c = letter.toUpper := by
  have hsmall : c.toNat < 128 := toNat_lt_of_toLower (h ▸ hletter)
  have hcase := Text.forall_ascii (p := fun c => c = c.toLower ∨ c = c.toLower.toUpper)
    (by decide) hsmall
  rwa [h] at hcase

end Characters

namespace Grammar

variable {c : Char} {cs rest : List Char}

theorem mem_of_isPower (h : isPower cs = true) (hc : c ∈ cs) :
    isDecimalDigit c = true ∨ c ∈ ['+', '-', '.', 'e', 'E'] := by
  cases cs with
  | nil => cases hc
  | cons e cs =>
      simp only [isPower, Bool.and_eq_true, Bool.or_eq_true, beq_iff_eq, Bool.not_eq_true',
        List.all_eq_true] at h
      obtain ⟨he, -, hdigits⟩ := h
      rcases List.mem_cons.mp hc with rfl | hc
      · rcases he with rfl | rfl <;> simp
      obtain ⟨sign, hcs⟩ := Decimal.exists_sign cs
      rw [hcs] at hc
      rcases List.mem_append.mp hc with hsign | hdigit
      · rcases Sign.eq_of_mem_text hsign with rfl | rfl <;> simp
      · exact .inl (hdigits c hdigit)

theorem mem_of_numeralRest (h : numeralRest cs = some rest) (hc : c ∈ cs) :
    isDecimalDigit c = true ∨ c = '.' ∨ c ∈ rest := by
  rcases mem_dropWhile_of_mem (p := isDecimalDigit) hc with hwhole | htail
  · exact .inl hwhole
  simp only [numeralRest] at h
  generalize cs.dropWhile isDecimalDigit = tail at h htail
  split at h
  · next after =>
      split at h
      · cases h
      obtain rfl := Option.some.inj h
      rcases List.mem_cons.mp htail with rfl | hafter
      · exact .inr (.inl rfl)
      · exact (mem_dropWhile_of_mem hafter).imp_right .inr
  · split at h
    · cases h
    obtain rfl := Option.some.inj h
    exact .inr (.inr htail)

/-- The characters that a number of any script may hold. -/
theorem mem_of_isNumeric (h : isNumeric cs = true) (hc : c ∈ cs) :
    isBlank c = true ∨ isDecimalDigit c = true ∨ c ∈ ['+', '-', '.', 'e', 'E'] := by
  refine (isBlank_or_mem_trim hc).imp_right ?_
  intro hmem
  rw [isNumeric] at h
  split at h
  · next rest hrest =>
      obtain ⟨sign, htrim⟩ := Decimal.exists_sign (trim cs)
      rw [htrim] at hmem
      rcases List.mem_append.mp hmem with hsign | hmem
      · rcases Sign.eq_of_mem_text hsign with rfl | rfl <;> simp
      rcases mem_of_numeralRest hrest hmem with hdigit | rfl | hpower
      · exact .inl hdigit
      · simp
      · exact mem_of_isPower h hpower
  · cases h

theorem comma_notMem_of_isNumeric (h : isNumeric cs = true) : ',' ∉ cs := by
  intro hcomma
  exact absurd (mem_of_isNumeric h hcomma) (by decide)

/-- A number in plain notation is one for the grammar. -/
theorem isNumeric_text (n : Numeral) : isNumeric n.text = true := by
  have htrim : trim n.text = n.text := trim_eq_self fun _ => n.isBlank_of_mem_text
  have hwhole : ∀ c ∈ n.whole, isDecimalDigit c = true := fun c hc =>
    isDecimalDigit_of_isDigit (n.isDigit_whole c hc)
  have hfraction : ∀ c ∈ n.fraction, isDecimalDigit c = true := fun c hc =>
    isDecimalDigit_of_isDigit (n.isDigit_fraction c hc)
  have hpoint : ∀ c ∈ (Numeral.fractionText n.fraction).head?, isDecimalDigit c = false :=
    fun _ hc => Numeral.head?_fractionText hc ▸ by decide
  have hne := n.whole_ne_nil
  simp only [isNumeric, htrim, n.splitSign_text, numeralRest,
    takeWhile_append_of_head hwhole hpoint, dropWhile_append_of_head hwhole hpoint]
  cases h : n.fraction with
  | nil => simp [Numeral.fractionText, hne, isPower]
  | cons c digits =>
      rw [h] at hfraction
      simp only [Numeral.fractionText, List.takeWhile_eq_self_iff.mpr hfraction,
        List.dropWhile_eq_nil_iff.mpr hfraction]
      simp [isPower]

end Grammar

/-- A language that writes numbers as French does: the tag starts with the letters of
French, in any case, and goes on with another part or not at all. -/
def InFrench (locale : Option String) : Prop :=
  ∃ tag f r rest, locale = some tag ∧ tag.toList = f :: r :: rest ∧ (f = 'f' ∨ f = 'F') ∧
    (r = 'r' ∨ r = 'R') ∧ ∀ c ∈ rest.head?, c = '-' ∨ c = '_'

/-- Digits in groups: between two groups there may be any of the marks. -/
inductive Grouped (marks : List Char) : List Char → List Char → Prop
  | group {digits} (hne : digits ≠ []) : Grouped marks digits digits
  | join {digits gap rest text} (hne : digits ≠ []) (hgap : gap ⊆ marks)
      (hrest : Grouped marks rest text) : Grouped marks (digits ++ rest) (digits ++ gap ++ text)

namespace Grouped

variable {marks digits text : List Char}

theorem ne_nil (h : Grouped marks digits text) : text ≠ [] := by
  cases h with
  | group hne => exact hne
  | join hne _ _ => simp [hne]

theorem head?_eq (h : Grouped marks digits text) : text.head? = digits.head? := by
  cases h with
  | group => rfl
  | @join digits gap rest text hne _ _ =>
      obtain ⟨c, more, rfl⟩ := List.exists_cons_of_ne_nil hne
      rfl

theorem getLast?_eq (h : Grouped marks digits text) : text.getLast? = digits.getLast? := by
  induction h with
  | group => rfl
  | @join digits gap rest text _ _ hrest ih =>
      have hsome : text.getLast?.isSome = true := List.getLast?_isSome.mpr hrest.ne_nil
      rw [List.getLast?_append, Option.or_of_isSome hsome, List.getLast?_append, ← ih,
        Option.or_of_isSome hsome]

/-- Without the marks only the digits are left. -/
theorem filter_eq {keep : Char → Bool} (h : Grouped marks digits text)
    (hdigits : ∀ c ∈ digits, keep c = true) (hmarks : ∀ c ∈ marks, keep c = false) :
    text.filter keep = digits := by
  induction h with
  | group => exact List.filter_eq_self.mpr hdigits
  | @join digits gap rest text _ hgap _ ih =>
      rw [List.forall_mem_append] at hdigits
      have hnone : gap.filter keep = [] := by
        refine List.filter_eq_nil_iff.mpr ?_
        intro c hc
        simp [hmarks c (hgap hc)]
      rw [List.filter_append, List.filter_append, hnone, List.append_nil,
        List.filter_eq_self.mpr hdigits.1, ih hdigits.2]

end Grouped

namespace Numeral

variable {n : Numeral} {point : Char} {marks whole : List Char}

def fractionAfter (point : Char) : List Char → List Char
  | [] => []
  | digits => point :: digits

/-- The number with its digits in groups, and with a point of another kind. -/
def written (n : Numeral) (point : Char) (whole : List Char) : List Char :=
  n.sign.text ++ (whole ++ fractionAfter point n.fraction)

theorem written_ne_nil (h : Grouped marks n.whole whole) : n.written point whole ≠ [] := by
  simp [written, h.ne_nil]

theorem head?_written (h : Grouped marks n.whole whole) :
    (n.written point whole).head? = n.text.head? := by
  have hsome : n.whole.head?.isSome = true := List.isSome_head?.mpr n.whole_ne_nil
  simp only [written, text, List.head?_append, h.head?_eq, Option.or_of_isSome hsome]

theorem getLast?_written (h : Grouped marks n.whole whole) :
    (n.written point whole).getLast? = n.text.getLast? := by
  simp only [written, text, List.getLast?_append, h.getLast?_eq]
  cases n.fraction with
  | nil => rfl
  | cons c digits => simp [fractionText, fractionAfter]

/-- Dropping the marks takes the groups apart, and no other character. -/
theorem filter_written {keep : Char → Bool} (h : Grouped marks n.whole whole)
    (hmarks : ∀ c ∈ marks, keep c = false) (htext : ∀ c ∈ n.text, keep c = true)
    (hpoint : keep point = true) :
    (n.written point whole).filter keep = n.written point n.whole := by
  simp only [text, List.forall_mem_append] at htext
  obtain ⟨hsign, hwhole, hfraction⟩ := htext
  simp only [written, List.filter_append, h.filter_eq hwhole hmarks, List.filter_eq_self.mpr hsign]
  cases hdigits : n.fraction with
  | nil => rfl
  | cons c digits =>
      have hkept : ∀ d ∈ c :: digits, keep d = true := fun d hd =>
        hfraction d (hdigits ▸ List.mem_cons_of_mem _ hd)
      rw [fractionAfter, List.filter_cons_of_pos hpoint, List.filter_eq_self.mpr hkept]
      exact List.cons_ne_nil c digits

/-- Only the point is replaced. -/
theorem map_written {f : Char → Char} (hpoint : f point = '.') (htext : ∀ c ∈ n.text, f c = c) :
    (n.written point n.whole).map f = n.text := by
  have hsame : ∀ cs : List Char, (∀ c ∈ cs, f c = c) → cs.map f = cs := fun cs h =>
    (List.map_congr_left h).trans (List.map_id cs)
  simp only [text, List.forall_mem_append] at htext
  obtain ⟨hsign, hwhole, hfraction⟩ := htext
  simp only [written, text, List.map_append, hsame _ hsign, hsame _ hwhole]
  cases hdigits : n.fraction with
  | nil => rfl
  | cons c digits =>
      have hkept : ∀ d ∈ c :: digits, f d = d := fun d hd =>
        hfraction d (hdigits ▸ List.mem_cons_of_mem _ hd)
      rw [fractionAfter, List.map_cons, hpoint, hsame _ hkept, fractionText]
      · exact List.cons_ne_nil c digits
      · exact List.cons_ne_nil c digits

end Numeral

namespace Scalar

variable {n : Numeral} {c : Char} {cs whole english french before after : List Char}
  {locale elsewhere : Option String}

theorem isBlank_of_isGroupSpace (h : isGroupSpace c = true) : isBlank c = true := by
  simp only [isGroupSpace, Bool.or_eq_true, beq_iff_eq] at h
  rcases h with (rfl | rfl) | rfl <;> decide

theorem isFrench_iff : isFrench locale = true ↔ InFrench locale := by
  cases locale with
  | none => exact iff_of_false nofun nofun
  | some tag =>
      rw [isFrench, beq_iff_eq]
      constructor
      · intro h
        obtain ⟨f, more, hfirst, hf, hmore⟩ := List.map_eq_cons_iff.mp h
        obtain ⟨r, last, rfl, hr, hlast⟩ := List.map_eq_cons_iff.mp hmore
        obtain rfl := List.map_eq_nil_iff.mp hlast
        have hsplit : tag.toList.takeWhile (fun c => c != '-' && c != '_') ++
            tag.toList.dropWhile (fun c => c != '-' && c != '_') = tag.toList :=
          List.takeWhile_append_dropWhile
        rw [hfirst] at hsplit
        refine ⟨tag, f, r, _, rfl, hsplit.symm, eq_or_eq_toUpper_of_toLower hf (by decide),
          eq_or_eq_toUpper_of_toLower hr (by decide), ?_⟩
        intro c hc
        change c ∈ (tag.toList.dropWhile fun c => c != '-' && c != '_').head? at hc
        have hstop := List.head?_dropWhile_not (fun c => c != '-' && c != '_') tag.toList
        rw [hc] at hstop
        simpa [or_iff_not_imp_left] using hstop
      · rintro ⟨_, f, r, rest, ⟨rfl⟩, htag, hf, hr, hrest⟩
        have hletters : ∀ c ∈ [f, r], (c != '-' && c != '_') = true := by
          rcases hf with rfl | rfl <;> rcases hr with rfl | rfl <;> simp
        have hstop : ∀ c ∈ rest.head?, (c != '-' && c != '_') = false := by
          intro c hc
          rcases hrest c hc with rfl | rfl <;> rfl
        have hfirst : tag.toList.takeWhile (fun c => c != '-' && c != '_') = [f, r] := by
          rw [htag]
          exact takeWhile_append_of_head hletters hstop
        rw [hfirst]
        rcases hf with rfl | rfl <;> rcases hr with rfl | rfl <;> rfl

/-- The characters of a number in plain notation stay when the marks are dropped. -/
theorem keeps_of_mem_text (h : c ∈ n.text) : isGroupSpace c = false ∧ c ≠ ',' := by
  constructor
  · rw [Bool.eq_false_iff]
    intro hspace
    have hblank := isBlank_of_isGroupSpace hspace
    rw [Numeral.isBlank_of_mem_text h] at hblank
    cases hblank
  · rintro rfl
    exact absurd (Numeral.mem_text h) (by decide)

theorem normalizeNumber_english (h : Grouped [',', ' ', '\u00A0', '\u202F'] n.whole whole) :
    normalizeNumber false (n.written '.' whole) = n.text := by
  refine Numeral.filter_written h ?_ ?_ (by decide)
  · simp [isGroupSpace]
  · intro c hc
    simp [keeps_of_mem_text hc]

theorem normalizeNumber_french (h : Grouped [' ', '\u00A0', '\u202F'] n.whole whole) :
    normalizeNumber true (n.written ',' whole) = n.text := by
  have hfilter : (n.written ',' whole).filter (!isGroupSpace ·) = n.written ',' n.whole := by
    refine Numeral.filter_written h ?_ ?_ (by decide)
    · simp [isGroupSpace]
    · intro c hc
      simp [keeps_of_mem_text hc]
  have hsame : ∀ c ∈ n.text, (if c = ',' then '.' else c) = c := fun c hc =>
    if_neg (keeps_of_mem_text hc).2
  rw [normalizeNumber, if_pos rfl, hfilter]
  exact Numeral.map_written rfl hsame

theorem readNumber_written {point : Char} {marks : List Char} (h : Grouped marks n.whole whole)
    (hnormal : normalizeNumber (isFrench locale) (n.written point whole) = n.text)
    (hbefore : ∀ c ∈ before, isBlank c = true) (hafter : ∀ c ∈ after, isBlank c = true) :
    readNumber (before ++ (n.written point whole ++ after)) locale = some n.value := by
  have htrim : trim (before ++ (n.written point whole ++ after)) = n.written point whole := by
    refine trim_append_blanks hbefore hafter (Numeral.written_ne_nil h) ?_ ?_
    · rw [Numeral.head?_written h]
      intro c hc
      exact Numeral.isBlank_of_mem_text (List.mem_of_mem_head? hc)
    · rw [Numeral.getLast?_written h]
      intro c hc
      exact Numeral.isBlank_of_mem_text (List.mem_of_getLast? hc)
  simp only [readNumber, htrim, hnormal]
  rw [if_pos (Grammar.isNumeric_text n), n.read_text_eq_value]

/-- Digits in groups, with the marks and the point of a locale and blanks around, are read as
the number that they write without them. -/
theorem readNumber_grouped (hlocale : ¬InFrench locale) (helsewhere : InFrench elsewhere)
    (henglish : Grouped [',', ' ', '\u00A0', '\u202F'] n.whole english)
    (hfrench : Grouped [' ', '\u00A0', '\u202F'] n.whole french)
    (hbefore : ∀ c ∈ before, isBlank c = true) (hafter : ∀ c ∈ after, isBlank c = true) :
    Binary64.read n.text = some n.value ∧
      readNumber (before ++ (n.written '.' english ++ after)) locale = some n.value ∧
      readNumber (before ++ (n.written ',' french ++ after)) elsewhere = some n.value := by
  have hplain : isFrench locale = false := Bool.eq_false_iff.mpr (mt isFrench_iff.mp hlocale)
  refine ⟨n.read_text_eq_value, ?_, ?_⟩
  · refine readNumber_written henglish ?_ hbefore hafter
    rw [hplain]
    exact normalizeNumber_english henglish
  · refine readNumber_written hfrench ?_ hbefore hafter
    rw [isFrench_iff.mpr helsewhere]
    exact normalizeNumber_french hfrench

/-- A locale whose name only starts like French, and French of another country. -/
theorem readNumber_grouped_million :
    let n : Numeral := ⟨.minus, ['1', '2', '3', '4', '5', '6', '7'], ['8', '9'], by decide,
      by simp [Char.isDigit], by simp [Char.isDigit]⟩
    n.value = .ofRatio true 123456789 100 ∧
      readNumber "\t-1,234\u00A0567.89 ".toList (some "fry") = some n.value ∧
      readNumber "\t-1 \u202F234567,89 ".toList (some "FR_be") = some n.value := by
  intro n
  have henglish : Grouped [',', ' ', '\u00A0', '\u202F'] n.whole
      ['1', ',', '2', '3', '4', '\u00A0', '5', '6', '7'] :=
    @Grouped.join _ ['1'] [','] _ _ (by simp) (by simp)
      (@Grouped.join _ ['2', '3', '4'] ['\u00A0'] _ _ (by simp) (by simp) (.group (by simp)))
  have hfrench : Grouped [' ', '\u00A0', '\u202F'] n.whole
      ['1', ' ', '\u202F', '2', '3', '4', '5', '6', '7'] :=
    @Grouped.join _ ['1'] [' ', '\u202F'] _ _ (by simp) (by simp) (.group (by simp))
  have hlocale : ¬InFrench (some "fry") := by
    rw [← isFrench_iff]
    decide
  have helsewhere : InFrench (some "FR_be") := isFrench_iff.mp (by decide)
  have htab : ∀ c ∈ ['\t'], isBlank c = true := by simp [isBlank]
  have hspace : ∀ c ∈ [' '], isBlank c = true := by simp [isBlank]
  obtain ⟨-, hread, hread'⟩ :=
    readNumber_grouped hlocale helsewhere henglish hfrench htab hspace
  exact ⟨by decide +kernel, hread, hread'⟩

/-- Where there is no comma, no locale is asked for. -/
theorem readNumber_eq_of_notMem (h : ',' ∉ cs) (locale elsewhere : Option String) :
    readNumber cs locale = readNumber cs elsewhere := by
  have hnot : ∀ c ∈ trim cs, c ≠ ',' := by
    rintro _ hc rfl
    exact h (SheetName.mem_of_mem_stripWith hc)
  have hplain (french : Bool) :
      normalizeNumber french (trim cs) = (trim cs).filter (!isGroupSpace ·) := by
    cases french with
    | true =>
        rw [normalizeNumber, if_pos rfl]
        refine (List.map_congr_left ?_).trans (List.map_id _)
        intro c hc
        exact if_neg (hnot c (List.mem_filter.mp hc).1)
    | false =>
        rw [normalizeNumber, if_neg Bool.false_ne_true]
        refine List.filter_congr ?_
        intro c hc
        rw [bne_iff_ne.mpr (hnot c hc), Bool.true_and]
  simp only [readNumber, hplain]

theorem comma_notMem_of_looksNumeric (h : Grammar.isNumeric (cs.filter (!isGroupSpace ·)) = true) :
    ',' ∉ cs := by
  intro hcomma
  exact Grammar.comma_notMem_of_isNumeric h (List.mem_filter.mpr ⟨hcomma, by decide⟩)

theorem infer_eq (s : String) (locale elsewhere : Option String) :
    infer s locale = infer s elsewhere := by
  by_cases h : Grammar.isNumeric (s.toList.filter (!isGroupSpace ·)) = true
  · have hread := readNumber_eq_of_notMem (comma_notMem_of_looksNumeric h) locale elsewhere
    simp only [infer, hread]
  · simp only [infer, if_neg h]

theorem readNumber_of_infer {s : String} {x : Binary64} (h : infer s locale = .number x) :
    readNumber s.toList locale = some x := by
  simp only [infer] at h
  split at h
  · next y hnumber =>
      obtain rfl := Scalar.number.inj h
      exact (Option.ite_none_right_eq_some.mp hnumber).2
  · split at h <;> cases h

/-- Without a wanted type a text is the same value in every locale; and if it is a number,
it is this number where one is wanted, again in every locale. -/
theorem ofText_locale (s : String) (locale elsewhere : Option String) :
    ofText s none locale = ofText s none elsewhere ∧
      ∀ x, ofText s none locale = .number x → ofText s (some .number) elsewhere = .number x := by
  cases hempty : s.isEmpty with
  | true => simp [ofText, hempty]
  | false =>
      simp only [ofText, hempty, Bool.false_eq_true, if_false]
      refine ⟨infer_eq s locale elsewhere, ?_⟩
      intro x hx
      have hread := readNumber_of_infer ((infer_eq s elsewhere locale).trans hx)
      rw [hread]

/-- A number with a space between its digits. -/
theorem ofText_locale_space :
    let x : Binary64 := .ofRatio false 1234 1
    (∀ locale, ofText "1 234" none locale = .number x) ∧
      ∀ locale, ofText "1 234" (some .number) locale = .number x := by
  intro x
  have hplain : ofText "1 234" none none = .number x := by decide +kernel
  refine ⟨?_, ?_⟩
  · intro locale
    rw [(ofText_locale "1 234" locale none).1, hplain]
  · intro locale
    exact (ofText_locale "1 234" none locale).2 x hplain

end Scalar

end TableBook
