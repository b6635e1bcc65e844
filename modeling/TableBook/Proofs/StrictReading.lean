import TableBook.Proofs.Numeral
import TableBook.Proofs.Reached
import TableBook.Proofs.Strictness

namespace TableBook

open Text

/-- The marks that are passed over where their reader does not understand the
value. -/
def Mark.withFallback : List Mark :=
  [.freeze, .autofilter, .defaultColumnWidth, .zoom, .printFit, .tabColor, .width, .height,
    .columnSpan, .rowSpan, .valueType, .autosize, .imageWidth, .imageHeight, .commentWidth,
    .commentHeight] ++ Directive.all

/-- The span that a value writes in digits, and not the one that stands in for a
value that is none. -/
def Reader.IsSpan (greatest : Nat) (value : String) : Prop :=
  ∃ n, leadingNumber value = some n ∧ span (some value) = n ∧
    (∀ c ∈ value.toList, c.isDigit = true) ∧ Nat.ofDigitChars 10 value.toList 0 = n ∧
      1 ≤ n ∧ n ≤ greatest

/-- The reader of a mark makes something of a value, on a sheet with cells in
the columns `used`. -/
def Mark.Understood (used : List Nat) (value : String) : Mark → Prop
  | .freeze => (Reader.address value).isSome = true
  | .autofilter => (Reader.range value).isSome = true
  | .defaultColumnWidth | .width | .height | .commentWidth | .commentHeight =>
      (Directive.readPositive value).isSome = true
  | .zoom => (Reader.zoom value).isSome = true
  | .printFit => (Fit.ofKeyword? value).isSome = true
  | .tabColor => (Color.read value.toList).isSome = true
  | .columnSpan => Reader.IsSpan maxColumns value
  | .rowSpan => Reader.IsSpan maxRows value
  | .valueType => (ValueType.ofKeyword? value).isSome = true
  | .autosize => ∃ columns, Reader.autosize value used = some columns ∧
      ∀ column ∈ columns, 1 ≤ column ∧ column ≤ maxColumns
  | .imageWidth | .imageHeight => (Reader.leadingNumber value).isSome = true
  | directive => (Directive.fragment? directive value).isSome = true

namespace Address

theorem columnAfter_pos {column k : Nat} {letters : List Char} (hpos : letters ≠ [] ∨ 1 ≤ column)
    (h : columnAfter column letters = .ok k) : 1 ≤ k := by
  induction letters generalizing column with
  | nil =>
      cases h
      exact hpos.resolve_left fun hne => hne rfl
  | cons c cs ih =>
      rw [columnAfter] at h
      split at h
      · refine ih (.inr (Nat.le_min.mpr ⟨?_, by decide⟩)) h
        exact Nat.le_add_left_of_le (Nat.le_add_left 1 _)
      · cases h

theorem columnOfLetters_bounds {letters : List Char} {k : Nat}
    (h : columnOfLetters letters = .ok k) : 1 ≤ k ∧ k ≤ maxColumns := by
  rw [columnOfLetters] at h
  split at h
  · cases h
  · next hne =>
      rw [List.isEmpty_iff] at hne
      split at h
      · cases h
      · next hcolumn =>
          split at h
          · next hle =>
              cases h
              exact ⟨columnAfter_pos (.inl hne) hcolumn, hle⟩
          · cases h

end Address

namespace Grammar

variable {value : String} {cs : List Char} {n : Nat}

theorem check_name_eq_ok_iff {mark : Mark} :
    check true mark.name value = .ok () ↔ fault? value (form mark) = none := by
  rw [check, if_pos rfl, Mark.ofName?_name]
  dsimp only
  cases fault? value (form mark) with
  | none => exact iff_of_true rfl rfl
  | some fault => exact iff_of_false nofun nofun

theorem accept_eq_none_iff {wellWritten : Bool} {expected : String} :
    accept wellWritten value expected = none ↔ wellWritten = true := by
  cases wellWritten <;> simp [accept]

theorem isSome_toOption {ε α : Type} {x : Except ε α} (h : x.isOk = true) :
    x.toOption.isSome = true := by
  cases x with
  | error => cases h
  | ok => rfl

theorem isSome_of_keyword {α : Type} {read : String → Option α} {words : List String}
    (hread : ∀ word ∈ words, (read word).isSome = true) (h : words.contains value = true) :
    (read value).isSome = true :=
  hread value (List.contains_iff_mem.mp h)

theorem isSome_of_positiveWord? {α : Type} {result : Option α} {f : Nat → α}
    (hresult : ∀ n, positiveWord? cs = some n → result = some (f n))
    (h : (positiveWord? cs).isSome = true) : result.isSome = true := by
  obtain ⟨n, hn⟩ := Option.isSome_iff_exists.mp h
  rw [hresult n hn, Option.isSome_some]

theorem isSpan_of_positiveWord? {greatest : Nat}
    (h : (positiveWord? value.toList).any (· ≤ greatest) = true) :
    Reader.IsSpan greatest value := by
  obtain ⟨n, hword, hle⟩ := (Option.any_eq_true _ _).mp h
  obtain ⟨hpos, -, hdigits, hvalue⟩ := positiveWord?_eq_some hword
  have hleading := leadingNumber_of_positiveWord? hword
  refine ⟨n, hleading, ?_, hdigits, hvalue, hpos, of_decide_eq_true hle⟩
  rw [Reader.span, Option.bind_some, hleading, Option.getD_some]

theorem exists_readBytes {n : Nat} (hlength : cs.length = 2 * n)
    (h : ∀ c ∈ cs, isHexDigit c = true) :
    ∃ bytes, Color.readBytes cs = some bytes ∧ bytes.length = n := by
  induction n generalizing cs with
  | zero =>
      obtain rfl := List.eq_nil_of_length_eq_zero hlength
      exact ⟨[], rfl, rfl⟩
  | succ n ih =>
      rcases cs with _ | ⟨c, _ | ⟨d, rest⟩⟩
      · cases hlength
      · simp only [List.length_singleton] at hlength
        omega
      · obtain ⟨hc, hmore⟩ := List.forall_mem_cons.mp h
        obtain ⟨hd, hrest⟩ := List.forall_mem_cons.mp hmore
        obtain ⟨high, hhigh⟩ := Option.isSome_iff_exists.mp hc
        obtain ⟨low, hlow⟩ := Option.isSome_iff_exists.mp hd
        have hshorter : rest.length = 2 * n := by
          simp only [List.length_cons] at hlength
          omega
        obtain ⟨bytes, hbytes, hcount⟩ := ih hshorter hrest
        refine ⟨UInt8.ofNat (16 * high + low) :: bytes, ?_, congrArg (· + 1) hcount⟩
        simp only [Color.readBytes, hhigh, hlow, hbytes]

theorem isBlank_of_isHexDigit {c : Char} (h : isHexDigit c = true) : isBlank c = false := by
  rw [isHexDigit, hexValue?] at h
  split at h
  · next hdigit => exact isBlank_of_between hdigit (by decide) (by decide)
  · split at h
    · next hcapital => exact isBlank_of_between hcapital (by decide) (by decide)
    · split at h
      · next hsmall => exact isBlank_of_between hsmall (by decide) (by decide)
      · cases h

theorem exists_digits_of_isPlainColor (h : Highlight.isPlainColor cs = true) :
    ∃ digits : List Char, (cs = '#' :: digits ∨ cs = digits) ∧ digits.length = 6 ∧
      ∀ c ∈ digits, isHexDigit c = true := by
  simp only [Highlight.isPlainColor, Bool.and_eq_true, beq_iff_eq, List.all_eq_true] at h
  split at h
  · next digits => exact ⟨digits, .inl rfl, h⟩
  · exact ⟨cs, .inr rfl, h⟩

/-- No blank stands around a color, and no second number sign in front. -/
theorem dropWhile_trim_of_digits {digits : List Char} (hcs : cs = '#' :: digits ∨ cs = digits)
    (hhex : ∀ c ∈ digits, isHexDigit c = true) : (trim cs).dropWhile (· == '#') = digits := by
  have hblank : ∀ c ∈ digits, isBlank c = false := fun c hc => isBlank_of_isHexDigit (hhex c hc)
  have htrim : trim cs = cs := by
    rcases hcs with rfl | rfl
    · exact trim_eq_self (List.forall_mem_cons.mpr ⟨by decide, hblank⟩)
    · exact trim_eq_self hblank
  have hsign : digits.dropWhile (· == '#') = digits := by
    refine List.dropWhile_eq_self_iff.mpr ?_
    intro hpos heq
    have hfirst := hhex digits[0] (List.getElem_mem hpos)
    rw [beq_iff_eq.mp heq] at hfirst
    exact absurd hfirst (by decide)
  rw [htrim]
  rcases hcs with rfl | rfl
  · exact hsign
  · exact hsign

theorem isSome_color (h : Highlight.isPlainColor cs = true) : (Color.read cs).isSome = true := by
  obtain ⟨digits, hcs, hlength, hhex⟩ := exists_digits_of_isPlainColor h
  obtain ⟨bytes, hbytes, hcount⟩ := exists_readBytes (n := 3) hlength hhex
  obtain ⟨r, g, b, rfl⟩ := List.length_eq_three.mp hcount
  rw [Color.read, dropWhile_trim_of_digits hcs hhex, hbytes]
  rfl

theorem between_of_isCapital {c : Char} (h : isCapital c = true) : 'A' ≤ c ∧ c ≤ 'Z' := by
  rw [isCapital, Bool.and_eq_true] at h
  exact ⟨of_decide_eq_true h.1, of_decide_eq_true h.2⟩

theorem column_of_isColumn (h : isColumn cs = true) :
    ∃ k, Reader.column cs = some k ∧ 1 ≤ k ∧ k ≤ maxColumns := by
  simp only [isColumn, Bool.and_eq_true, List.all_eq_true] at h
  obtain ⟨⟨-, hcapitals⟩, hok⟩ := h
  have htrim : trim cs = cs := by
    refine trim_eq_self fun c hc => ?_
    exact isBlank_of_between (between_of_isCapital (hcapitals c hc)) (by decide) (by decide)
  rw [Reader.column, htrim]
  cases hcolumn : Address.columnOfLetters cs with
  | error fault =>
      rw [hcolumn] at hok
      cases hok
  | ok k => exact ⟨k, rfl, Address.columnOfLetters_bounds hcolumn⟩

theorem exists_mapM_eq_some {α β : Type} {f : α → Option β} {p : β → Prop} {xs : List α}
    (h : ∀ x ∈ xs, ∃ y, f x = some y ∧ p y) : ∃ ys, xs.mapM f = some ys ∧ ∀ y ∈ ys, p y := by
  induction xs with
  | nil => exact ⟨[], rfl, List.forall_mem_nil _⟩
  | cons x xs ih =>
      obtain ⟨hx, hxs⟩ := List.forall_mem_cons.mp h
      obtain ⟨y, hy, hpy⟩ := hx
      obtain ⟨ys, hys, hpys⟩ := ih hxs
      refine ⟨y :: ys, ?_, List.forall_mem_cons.mpr ⟨hpy, hpys⟩⟩
      rw [List.mapM_cons, hy, hys]
      rfl

theorem autosize_of_isAutosize {used : List Nat}
    (hused : ∀ column ∈ used, 1 ≤ column ∧ column ≤ maxColumns)
    (h : isAutosize value.toList = true) :
    ∃ columns, Reader.autosize value used = some columns ∧
      ∀ column ∈ columns, 1 ≤ column ∧ column ≤ maxColumns := by
  rw [Reader.autosize]
  by_cases hword : value = "true"
  · rw [if_pos hword]
    exact ⟨used, rfl, hused⟩
  rw [if_neg hword]
  rw [isAutosize, decide_eq_false (mt String.toList_inj.mp hword), Bool.false_or] at h
  generalize cut ':' value.toList = parts at h ⊢
  rcases parts with _ | ⟨first, last⟩
  · have hpieces := List.all_eq_true.mp h
    exact exists_mapM_eq_some fun cs hcs => column_of_isColumn (hpieces cs hcs)
  · obtain ⟨hfirst, hlast⟩ := (Bool.and_eq_true _ _).mp h
    obtain ⟨a, ha, hpos, hmax⟩ := column_of_isColumn hfirst
    obtain ⟨b, hb, hpos', hmax'⟩ := column_of_isColumn hlast
    dsimp only
    rw [ha, hb]
    refine ⟨_, rfl, ?_⟩
    intro column hcolumn
    obtain ⟨i, hi, rfl⟩ := List.mem_map.mp hcolumn
    rw [List.mem_range] at hi
    omega

theorem understood_of_fault?_eq_none {used : List Nat}
    (hused : ∀ column ∈ used, 1 ≤ column ∧ column ≤ maxColumns) {mark : Mark}
    (hmark : mark ∈ Mark.withFallback) (hvalue : value ≠ "")
    (h : fault? value (form mark) = none) : mark.Understood used value := by
  have htaken : ∀ {wellWritten : Bool} {expected : String},
      fault? value (form mark) = accept wellWritten value expected → wellWritten = true := by
    intro wellWritten expected heq
    exact accept_eq_none_iff.mp (heq ▸ h)
  have hmap : ∀ {α : Type} {x : Option α} {f : α → Style}, x.isSome = true →
      (x.map f).isSome = true := fun hx => Option.isSome_map.trans hx
  cases mark with
  | freeze => exact isSome_toOption (htaken rfl)
  | autofilter => exact isSome_toOption (htaken rfl)
  | defaultColumnWidth =>
      exact isSome_of_positiveWord? (fun _ => readPositive_of_positiveWord?) (htaken rfl)
  | width =>
      exact isSome_of_positiveWord? (fun _ => readPositive_of_positiveWord?) (htaken rfl)
  | height => exact isSome_readPositive (htaken rfl)
  | commentWidth => exact isSome_readPositive (htaken rfl)
  | commentHeight => exact isSome_readPositive (htaken rfl)
  | zoom => exact isSome_of_positiveWord? (fun _ => zoom_of_positiveWord?) (htaken rfl)
  | imageWidth =>
      exact isSome_of_positiveWord? (fun _ => leadingNumber_of_positiveWord?) (htaken rfl)
  | imageHeight =>
      exact isSome_of_positiveWord? (fun _ => leadingNumber_of_positiveWord?) (htaken rfl)
  | printFit => exact isSome_of_keyword (by decide) (htaken rfl)
  | tabColor => exact isSome_color (htaken rfl)
  | columnSpan => exact isSpan_of_positiveWord? (htaken rfl)
  | rowSpan => exact isSpan_of_positiveWord? (htaken rfl)
  | valueType => exact isSome_of_keyword (by decide) (htaken rfl)
  | autosize => exact autosize_of_isAutosize hused (htaken rfl)
  | format => rfl
  | align => rfl
  | verticalAlign => rfl
  | wrap => rfl
  | locked => rfl
  | fontBold => rfl
  | fontItalic => rfl
  | backgroundColor => exact hmap (isSome_color (htaken rfl))
  | borderColor => exact hmap (isSome_color (htaken rfl))
  | fontColor => exact hmap (isSome_color (htaken rfl))
  | fontSize => exact hmap (isSome_readPositive (htaken rfl))
  | border => exact hmap (isSome_of_keyword (by decide) (htaken rfl))
  | fontUnderline => exact hmap (isSome_of_keyword (by decide) (htaken rfl))
  | fontName =>
      have hne : value.isEmpty = false := Bool.eq_false_iff.mpr (mt String.isEmpty_iff.mp hvalue)
      change (if value.isEmpty then none else some _ : Option Style).isSome = true
      rw [hne]
      rfl
  | conditional => exact hmap (htaken rfl)
  | _ => exact absurd hmark (by decide)

end Grammar

theorem Sheet.Within.usedColumns_bounds {s : Sheet} (h : s.Within) :
    ∀ column ∈ s.grid.usedColumns, 1 ≤ column ∧ column ≤ maxColumns := by
  intro column hcolumn
  obtain ⟨a, ha, rfl⟩ := Grid.mem_usedColumns_iff.mp hcolumn
  obtain ⟨-, -, hbounds⟩ := h.cells a ha
  exact hbounds

open Grammar

/-- Whatever the grammar takes, the reader of the mark understands. -/
theorem Sheet.Reached.understood_of_check {s : Sheet} (hs : s.Reached) {mark : Mark}
    (hmark : mark ∈ Mark.withFallback) {value : String} (hvalue : value ≠ "")
    (h : Grammar.check true mark.name value = .ok ()) :
    mark.Understood s.grid.usedColumns value :=
  understood_of_fault?_eq_none hs.within.usedColumns_bounds hmark hvalue
    (check_name_eq_ok_iff.mp h)

/-- Leading zeros are no part of a span. -/
theorem Sheet.Reached.understood_of_check_zeros :
    (Sheet.new "Data").Reached ∧ Mark.columnSpan ∈ Mark.withFallback ∧ "012" ≠ "" ∧
      Grammar.check true Mark.columnSpan.name "012" = .ok () ∧
        Mark.columnSpan.Understood (Sheet.new "Data").grid.usedColumns "012" ∧
          Reader.span (some "012") = 12 := by
  have hs : (Sheet.new "Data").Reached := ⟨"Data", .refl⟩
  have hmark : Mark.columnSpan ∈ Mark.withFallback := by decide
  have hcheck : Grammar.check true Mark.columnSpan.name "012" = .ok () :=
    check_name_eq_ok_iff.mpr (by decide)
  exact ⟨hs, hmark, by decide, hcheck, understood_of_check hs hmark (by decide) hcheck, by decide⟩

theorem Mark.isName_name (mark : Mark) : Mark.isName mark.name = true := by
  rw [isName, name, String.toList_append, List.isPrefixOf_iff_prefix]
  exact List.prefix_append _ _

theorem Element.mem_of_mark?_eq_some {e : Element} {mark : Mark} {value : String}
    (h : e.mark? mark = some value) : (mark.name, value) ∈ e.attributes ∧ value ≠ "" := by
  obtain ⟨hattribute, hfilled⟩ := Option.filter_eq_some_iff.mp h
  obtain ⟨⟨name, value'⟩, hfind, rfl⟩ := Option.map_eq_some_iff.mp hattribute
  have hname : name = mark.name := by
    have hfound := List.find?_some hfind
    exact eq_of_beq hfound
  subst hname
  refine ⟨List.mem_of_find?_eq_some hfind, ?_⟩
  rintro rfl
  cases hfilled

theorem Element.Passes.fault?_eq_none {e : Element} {mark : Mark} {value : String} (h : e.Passes)
    (hvalue : e.mark? mark = some value) : fault? value (form mark) = none := by
  obtain ⟨hmem, -⟩ := Element.mem_of_mark?_eq_some hvalue
  exact check_name_eq_ok_iff.mp (h _ hmem mark.isName_name)

/-- No value of a visited element was passed over by a strict reading of its
table; columns are sized by content last, when all rows have their cells. -/
theorem Sheet.understood_of_ofTable {context : Context} {table : Element} {taken : List String}
    {u : Sheet} (h : Sheet.ofTable (context.withStrict true) table taken = .ok u) :
    ∃ t : Sheet, u = t.withAutosize table ∧
      ∀ e ∈ table.visited, ∀ mark ∈ Mark.withFallback, ∀ value, e.mark? mark = some value →
        mark.Understood t.grid.usedColumns value := by
  obtain ⟨t, ht, rfl⟩ := reached_of_ofTable h
  obtain ⟨hpasses, -⟩ := (ofTable_filters context table taken _).mp h
  refine ⟨t, rfl, ?_⟩
  intro e he mark hmark value hvalue
  obtain ⟨-, hne⟩ := Element.mem_of_mark?_eq_some hvalue
  exact understood_of_fault?_eq_none ht.within.usedColumns_bounds hmark hne
    ((hpasses e he).fault?_eq_none hvalue)

end TableBook
