import TableBook.Proofs.CsvRecords
import TableBook.Proofs.WrittenDate

namespace TableBook

open Text Calendar

namespace Scalar

variable {d : Date} {second : Nat}

/-- A number is not followed by a dash. -/
theorem isNumeric_of_dash (width n : Nat) {rest : List Char}
    (hclear : ∀ c ∈ rest, isBlank c = false) :
    Grammar.isNumeric (padDigits width n ++ '-' :: rest) = false := by
  have htrim : trim (padDigits width n ++ '-' :: rest) = padDigits width n ++ '-' :: rest := by
    refine trim_eq_self ?_
    intro c hc
    rcases List.mem_append.mp hc with hdigit | hrest
    · exact isBlank_of_isDigit (isDigit_of_mem_padDigits hdigit)
    · rcases List.mem_cons.mp hrest with rfl | hrest
      · decide
      · exact hclear c hrest
  have hsign : Decimal.splitSign (padDigits width n ++ '-' :: rest) =
      (false, padDigits width n ++ '-' :: rest) := by
    unfold Decimal.splitSign
    split
    · next h => exact absurd (isDigit_of_padDigits_append h) (by decide)
    · next h => exact absurd (isDigit_of_padDigits_append h) (by decide)
    · rfl
  have hdigits : ∀ c ∈ padDigits width n, isDecimalDigit c = true := fun c hc =>
    isDecimalDigit_of_isDigit (isDigit_of_mem_padDigits hc)
  have hdash : isDecimalDigit '-' = false := by decide
  have hwhole : (padDigits width n ++ '-' :: rest).takeWhile isDecimalDigit =
      padDigits width n := by
    rw [List.takeWhile_append_of_pos hdigits, List.takeWhile_cons_of_neg (by simp [hdash]),
      List.append_nil]
  have hrest : (padDigits width n ++ '-' :: rest).dropWhile isDecimalDigit = '-' :: rest := by
    rw [List.dropWhile_append_of_pos hdigits, List.dropWhile_cons_of_neg (by simp [hdash])]
  have hnumeral : Grammar.numeralRest (padDigits width n ++ '-' :: rest) = some ('-' :: rest) := by
    rw [Grammar.numeralRest, hwhole, hrest]
    simp [padDigits_ne_nil]
  rw [Grammar.isNumeric, htrim, hsign]
  dsimp only
  rw [hnumeral]
  rfl

theorem isGroupSpace_of_isDigit {c : Char} (h : c.isDigit = true) : isGroupSpace c = false := by
  simp only [isGroupSpace, Bool.or_eq_false_iff, beq_eq_false_iff_ne]
  refine ⟨⟨?_, ?_⟩, ?_⟩ <;> (rintro rfl; exact absurd h (by decide))

theorem isNumeric_momentText (d : Date) (second : Nat) :
    Grammar.isNumeric ((momentText d second).filter (!isGroupSpace ·)) = false := by
  obtain ⟨⟨rest, hrest⟩, -⟩ := momentText_ends d second
  have hyear : (padDigits 4 d.year.toNat).filter (!isGroupSpace ·) = padDigits 4 d.year.toNat := by
    refine List.filter_eq_self.mpr ?_
    intro c hc
    rw [isGroupSpace_of_isDigit (isDigit_of_mem_padDigits hc)]
    rfl
  rw [hrest, dayText_append, List.filter_append, hyear, List.filter_cons_of_pos (by decide)]
  refine isNumeric_of_dash _ _ ?_
  intro c hc
  obtain ⟨hmem, hspace⟩ := List.mem_filter.mp hc
  have hmoment : c ∈ momentText d second := by
    rw [hrest, dayText_append]
    exact List.mem_append_right _ (List.mem_cons_of_mem _ hmem)
  rcases mem_momentText hmoment with hdigit | hmark
  · exact isBlank_of_isDigit hdigit
  · simp only [List.mem_cons, List.not_mem_nil, or_false] at hmark
    rcases hmark with rfl | rfl | rfl
    · decide
    · decide
    · exact absurd hspace (by decide)

theorem looksLikeDate_append {year month day : List Char} (hyear : year.length = 4)
    (hmonth : month.length = 2) (hday : day.length = 2)
    (hdigits : ∀ c ∈ year ++ month ++ day, isDecimalDigit c = true) (rest : List Char) :
    looksLikeDate (year ++ '-' :: (month ++ '-' :: (day ++ rest))) = true := by
  match year, hyear, month, hmonth, day, hday with
  | [_, _, _, _], _, [_, _], _, [_, _], _ => exact List.all_eq_true.mpr hdigits

theorem looksLikeDate_momentText (h : Plain d) (second : Nat) :
    looksLikeDate (momentText d second) = true := by
  obtain ⟨⟨rest, hrest⟩, -⟩ := momentText_ends d second
  have hmonth : d.month < 10 ^ 2 := Nat.lt_of_le_of_lt h.month_bounds.2 (by decide)
  have hday : d.day < 10 ^ 2 := Nat.lt_of_le_of_lt h.day_bounds.2 (by decide)
  rw [hrest, dayText_append]
  refine looksLikeDate_append (length_padDigits (by decide) h.year_toNat.2)
    (length_padDigits (by decide) hmonth) (length_padDigits (by decide) hday) ?_ rest
  intro c hc
  simp only [List.mem_append, or_assoc] at hc
  rcases hc with hc | hc | hc <;>
    exact isDecimalDigit_of_isDigit (isDigit_of_mem_padDigits hc)

theorem trim_momentText (d : Date) (second : Nat) :
    trim (momentText d second) = momentText d second := by
  obtain ⟨⟨rest, hrest⟩, front, n, hfront⟩ := momentText_ends d second
  refine stripWith_eq_self ?_ ?_
  · intro c hc
    obtain ⟨cs, hcs⟩ := List.head?_eq_some_iff.mp hc
    rw [hrest, dayText_append] at hcs
    exact isBlank_of_isDigit (isDigit_of_padDigits_append hcs)
  · intro c hc
    rw [hfront, List.getLast?_append_of_ne_nil _ (padDigits_ne_nil 2 n)] at hc
    exact isBlank_of_isDigit (isDigit_of_mem_padDigits (List.mem_of_getLast? hc))

/-- Whatever the locale, a written moment is read as its serial. -/
theorem ofText_momentText (h : Plain d) (hsecond : second < DateTime.secondsInDay)
    {serial : Binary64} (hserial : Serial.encode ⟨d, second, 0⟩ = some serial)
    (locale : Option String) :
    ofText (String.ofList (momentText d second)) none locale = .date serial := by
  have hne : (String.ofList (momentText d second)).isEmpty = false := by
    rw [String.isEmpty_eq_false_iff, ne_eq, String.ofList_eq_empty_iff]
    exact momentText_ne_nil d second
  have hread : readSerial (momentText d second) = some serial := by
    rw [readSerial, trim_momentText, read_momentText h hsecond]
    exact hserial
  rw [ofText, hne]
  simp only [infer, String.toList_ofList, isNumeric_momentText, looksLikeDate_momentText h, hread,
    if_true, Bool.false_eq_true, if_false]

end Scalar

namespace CsvOptions

variable {d : Date} {second : Nat} {serial : Binary64} {s : Sheet}

theorem valueText_date (h : Plain d) (hserial : Serial.decode serial = .moment ⟨d, second, 0⟩) :
    ({} : Csv).options.valueText .usual (.date serial) = .ok (momentText d second) := by
  have hformat : CsvLibrary.usual.format ⟨d, second, 0⟩
      (({} : Csv).options.patternFor ⟨d, second, 0⟩).toList = some (momentText d second) := by
    rw [patternFor, momentText]
    split
    · exact h.format?_day second
    · exact h.format?_moment second
  rw [valueText, dateText, hserial]
  dsimp only
  rw [hformat]

theorem fieldBytes_of_plain {options : CsvOptions} {field : List UInt8}
    (h : ∀ b ∈ field, options.isSpecial b = false) : options.fieldBytes .usual field = field := by
  have hplain : CsvLibrary.usual.quotes options field = false :=
    List.any_eq_false.mpr fun b hb => Bool.eq_false_iff.mp (h b hb)
  rw [fieldBytes, hplain]
  rfl

theorem isSpecial_of_isDigit {c : Char} (h : c.isDigit = true) :
    ∀ b ∈ String.utf8EncodeChar c, ({} : Csv).options.isSpecial b = false := by
  obtain ⟨hlow, hhigh⟩ := Char.isDigit_iff_toNat.mp h
  have hval : c.val.toNat ≤ 57 := hhigh
  have hsize : c.utf8Size = 1 :=
    Char.utf8Size_eq_one_iff.mpr (UInt32.le_iff_toNat_le.mpr (hval.trans (by decide)))
  intro b hb
  rw [String.utf8EncodeChar_eq_singleton hsize, List.mem_singleton] at hb
  have hbyte : 48 ≤ b.toNat := by
    have hlow : 48 ≤ c.val.toNat := hlow
    rw [hb, UInt32.toNat_toUInt8]
    omega
  simp only [isSpecial, Bool.or_eq_false_iff, beq_eq_false_iff_ne]
  refine ⟨⟨⟨?_, ?_⟩, ?_⟩, ?_⟩ <;> (rintro rfl; exact absurd hbyte (by decide))

theorem fieldBytes_momentText (d : Date) (second : Nat) :
    ({} : Csv).options.fieldBytes .usual (Text.bytes (momentText d second)) =
      Text.bytes (momentText d second) := by
  refine fieldBytes_of_plain ?_
  intro b hb
  obtain ⟨c, hc, hbyte⟩ := List.mem_flatMap.mp hb
  rcases mem_momentText hc with hdigit | hmark
  · exact isSpecial_of_isDigit hdigit b hbyte
  · have hmarks : (['-', ':', ' '].all fun c =>
        (String.utf8EncodeChar c).all fun b => !({} : Csv).options.isSpecial b) = true := by
      decide +kernel
    have hplain := List.all_eq_true.mp (List.all_eq_true.mp hmarks c hmark) b hbyte
    simpa using hplain

/-- A sheet with one value, in its first position, is one record of one field. -/
theorem write_of_single {library : CsvLibrary} {options : CsvOptions} {c : Cell}
    {cs : List Char} (hc : s.cell? ⟨1, 1⟩ = some c)
    (honly : ∀ a, (s.cell? a).isSome = true → a = ⟨1, 1⟩)
    (hvalue : options.valueText library c.value = .ok cs) :
    options.write library s = .ok (options.recordBytes library [Text.bytes cs]) := by
  obtain ⟨used, hused⟩ : ∃ used, s.usedRange = some used := by
    rw [← Option.isSome_iff_exists, Option.isSome_iff_ne_none]
    intro hnone
    have hempty := Grid.bounds_eq_none_iff.mp hnone ⟨1, 1⟩
    exact absurd (hc.symm.trans hempty) (by simp)
  obtain ⟨⟨⟨a, ha, hrow⟩, -⟩, ⟨b, hb, hcolumn⟩, -⟩ := Grid.isGreatest_bounds hused
  rw [honly a ha] at hrow
  rw [honly b hb] at hcolumn
  have hfield : ∀ a, options.cellField library (s.cell? a) =
      .ok (if a = ⟨1, 1⟩ then Text.bytes cs else []) := by
    intro a
    split
    · next ha =>
        rw [ha, hc, cellField, hvalue]
        rfl
    · next ha =>
        have hnone : s.cell? a = none := by
          rw [← Option.not_isSome_iff_eq_none]
          exact fun hstored => ha (honly a hstored)
        rw [hnone]
        rfl
  rw [write, records_eq hused hfield, ← hrow, ← hcolumn]
  -- The table has the one record, and its length is the one asked for.
  change Except.ok (options.recordBytes library [Text.bytes cs] ++ []) = _
  rw [List.append_nil]

theorem recordBytes_single {library : CsvLibrary} {options : CsvOptions} {field : List UInt8}
    (h : field ≠ []) :
    options.recordBytes library [field] =
      options.fieldBytes library field ++ options.lineEnd.bytes := by
  have hmatch : options.recordBytes library [field] =
      [options.delimiter].intercalate ([field].map (options.fieldBytes library)) ++
        options.lineEnd.bytes := by
    cases field with
    | nil => exact absurd rfl h
    | cons => rfl
  rw [hmatch, List.map_cons, List.map_nil, List.intercalate_singleton]

/-- The sheet of a date and nothing else is the text of the date on a line. -/
theorem write_date (h : Plain d) (hserial : Serial.decode serial = .moment ⟨d, second, 0⟩)
    {c : Cell} (hc : s.cell? ⟨1, 1⟩ = some c) (hvalue : c.value = .date serial)
    (honly : ∀ a, (s.cell? a).isSome = true → a = ⟨1, 1⟩) :
    ({} : Csv).options.write .usual s =
      .ok (Text.bytes (momentText d second ++ ['\r', '\n'])) := by
  have hbytes : Text.bytes (momentText d second) ≠ [] := by
    obtain ⟨x, cs, hcs⟩ := List.exists_cons_of_ne_nil (momentText_ne_nil d second)
    rw [hcs, Text.bytes, List.flatMap_cons]
    exact List.append_ne_nil_of_left_ne_nil String.utf8EncodeChar_ne_nil _
  rw [write_of_single hc honly (hvalue ▸ valueText_date h hserial), recordBytes_single hbytes,
    fieldBytes_momentText, Text.bytes, Text.bytes, List.flatMap_append]
  rfl

end CsvOptions

theorem Text.fromUTF8?_bytes (cs : List Char) :
    String.fromUTF8? ⟨(Text.bytes cs).toArray⟩ = some (String.ofList cs) := by
  have hencoded : (⟨(Text.bytes cs).toArray⟩ : ByteArray) = cs.utf8Encode := by
    apply ByteArray.ext
    rw [List.utf8Encode, List.data_toByteArray]
    rfl
  have hvalid : cs.utf8Encode.IsValidUTF8 := (String.ofList cs).isValidUTF8
  rw [hencoded, String.fromUTF8?, dif_pos hvalid]
  rfl

/-- What is written of a sheet as the bytes of a text is this text. -/
theorem Csv.write_eq_ok {csv : Csv} {s : Sheet} {cs : List Char}
    (h : csv.options.write .usual s = .ok (Text.bytes cs)) :
    csv.write s = .ok (String.ofList cs) := by
  simp only [Csv.write, h, bind, Except.bind, Text.fromUTF8?_bytes]

/-- A date between 1900 and 9999 with a time of day in whole seconds comes
through a cell unchanged: whatever the locale its text is read as a serial, and
this serial is written as the text, without quotes. -/
theorem Csv.moment_comes_through (d : Date) (second : Nat) (hd : d.isValid = true)
    (hfirst : 1900 ≤ d.year) (hlast : d.year ≤ 9999) (hsecond : second < DateTime.secondsInDay) :
    let text := momentText d second
    ∃ serial, (∀ locale, Scalar.ofText (String.ofList text) none locale = .date serial) ∧
      ({} : Csv).options.valueText .usual (.date serial) = .ok text ∧
      ({} : Csv).options.fieldBytes .usual (Text.bytes text) = Text.bytes text ∧
      ∀ (s : Sheet) c, s.cell? ⟨1, 1⟩ = some c → c.value = .date serial →
        (∀ a, (s.cell? a).isSome = true → a = ⟨1, 1⟩) →
        ({} : Csv).write s = .ok (String.ofList (text ++ ['\r', '\n'])) := by
  intro text
  have hplain : Plain d := ⟨hd, by omega, hlast⟩
  obtain ⟨serial, hencode, hdecode⟩ := Serial.decode_encode hd hfirst hlast hsecond
  refine ⟨serial, Scalar.ofText_momentText hplain hsecond hencode,
    CsvOptions.valueText_date hplain hdecode, CsvOptions.fieldBytes_momentText d second, ?_⟩
  intro s c hc hvalue honly
  exact write_eq_ok (CsvOptions.write_date hplain hdecode hc hvalue honly)

/-- The last second before the day that only serials count. -/
theorem Csv.moment_comes_through_1900 :
    let text := "1900-02-28 23:59:59"
    ∃ serial, (∀ locale, Scalar.ofText text none locale = .date serial) ∧
      ({} : Csv).options.valueText .usual (.date serial) = .ok text.toList := by
  have htext : momentText ⟨1900, 2, 28⟩ 86399 = "1900-02-28 23:59:59".toList := by decide
  obtain ⟨serial, hread, hwritten, -⟩ :=
    moment_comes_through ⟨1900, 2, 28⟩ 86399 (by decide) (by decide) (by decide) (by decide)
  rw [htext] at hread hwritten
  rw [String.ofList_toList] at hread
  exact ⟨serial, hread, hwritten⟩

end TableBook
