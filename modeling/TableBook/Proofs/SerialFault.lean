import TableBook.Proofs.CsvRecords
import TableBook.Proofs.SerialSpan

namespace TableBook

section Traversal

variable {ε α β : Type} {f : α → Except ε β} {xs : List α} {x : α} {e : ε}

theorem exists_of_mapM_eq_error (h : xs.mapM f = .error e) : ∃ x ∈ xs, f x = .error e := by
  induction xs with
  | nil => cases h
  | cons x rest ih =>
      rw [List.mapM_cons] at h
      rcases bind_eq_error_iff.mp h with hfirst | ⟨y, -, h⟩
      · exact ⟨x, List.mem_cons_self, hfirst⟩
      rcases bind_eq_error_iff.mp h with hrest | ⟨ys, -, h⟩
      · obtain ⟨z, hz, hfault⟩ := ih hrest
        exact ⟨z, List.mem_cons_of_mem _ hz, hfault⟩
      · cases h

theorem exists_mapM_eq_error (hx : x ∈ xs) (h : f x = .error e) :
    ∃ fault, xs.mapM f = .error fault := by
  induction xs with
  | nil => cases hx
  | cons y rest ih =>
      rw [List.mapM_cons]
      cases hy : f y with
      | error fault => exact ⟨fault, rfl⟩
      | ok value =>
          have hrest : x ∈ rest := by
            rcases List.mem_cons.mp hx with rfl | hrest
            · rw [h] at hy
              cases hy
            · exact hrest
          obtain ⟨fault, hfault⟩ := ih hrest
          rw [hfault]
          exact ⟨fault, rfl⟩

end Traversal

namespace CsvOptions

open Serial

variable {library : CsvLibrary} {options : CsvOptions} {s : Sheet} {a : Address} {x : Binary64}
  {fault : CsvFault}

theorem dateText_eq_error_iff (h : PatternsValid library options) :
    options.dateText library x = .error fault ↔ PastSpan x ∧ fault = .spanTooLong x := by
  rw [← decode_eq_spanTooLong_iff, dateText]
  split
  · next t ht =>
      obtain ⟨cs, hcs⟩ := patternFor_valid h (regular_of_decode ht)
      simp [ht, hcs]
  · next hnone => simp [hnone]
  · next hspan => simp [hspan, eq_comm]

theorem dateText_of_not_kept (hkept : ¬Kept x) (hspan : ¬PastSpan x) :
    options.dateText library x = .ok x.text.toList := by
  rw [dateText, decode_eq_unrepresentable_iff.mpr ⟨hkept, hspan⟩]

theorem cellField_eq_error_iff (h : PatternsValid library options) :
    options.cellField library (s.cell? a) = .error fault ↔
      ∃ x, s.valueAt a = .date x ∧ PastSpan x ∧ fault = .spanTooLong x := by
  rw [Sheet.valueAt]
  cases s.cell? a with
  | none => simp [cellField]
  | some c =>
      have hvalue : options.cellField library (some c) = .error fault ↔
          options.valueText library c.value = .error fault := by
        rw [cellField]
        cases options.valueText library c.value <;> simp [Except.map]
      rw [hvalue]
      cases hc : c.value with
      | date x => simp [valueText, dateText_eq_error_iff h, hc]
      | _ => simp [valueText, hc]

theorem mem_upTo_iff {n m : Nat} : n ∈ upTo m ↔ 1 ≤ n ∧ n ≤ m := by
  simp only [upTo, List.mem_map, List.mem_range]
  constructor
  · rintro ⟨k, hk, rfl⟩
    omega
  · intro h
    exact ⟨n - 1, by omega, by omega⟩

theorem records_eq_error {used : Range} (h : PatternsValid library options)
    (hused : s.usedRange = some used) (hfault : options.records library s = .error fault) :
    ∃ a x, s.valueAt a = .date x ∧ PastSpan x ∧ fault = .spanTooLong x := by
  rw [records_of_usedRange hused] at hfault
  obtain ⟨row, -, hrow⟩ := exists_of_mapM_eq_error hfault
  obtain ⟨column, -, hfield⟩ := exists_of_mapM_eq_error hrow
  exact ⟨⟨row, column⟩, (cellField_eq_error_iff h).mp hfield⟩

theorem exists_records_eq_error {used : Range} (hused : s.usedRange = some used)
    (hrow : 1 ≤ a.row ∧ a.row ≤ used.last.row)
    (hcolumn : 1 ≤ a.column ∧ a.column ≤ used.last.column)
    (hfault : options.cellField library (s.cell? a) = .error fault) :
    ∃ fault, options.records library s = .error fault := by
  rw [records_of_usedRange hused]
  obtain ⟨rowFault, hrowFault⟩ := exists_mapM_eq_error
    (f := fun column => options.cellField library (s.cell? ⟨a.row, column⟩))
    (mem_upTo_iff.mpr hcolumn) hfault
  exact exists_mapM_eq_error (mem_upTo_iff.mpr hrow) hrowFault

theorem write_eq_error (h : PatternsValid library options) (hwithin : s.Within)
    (hdate : s.valueAt a = .date x) (hspan : PastSpan x) :
    ∃ b y, s.valueAt b = .date y ∧ PastSpan y ∧
      options.write library s = .error (.spanTooLong y) := by
  obtain ⟨c, hc, -⟩ := (Sheet.valueAt_eq_iff Value.noConfusion).mp hdate
  have hstored : (s.cell? a).isSome = true := by rw [hc, Option.isSome_some]
  cases hused : s.usedRange with
  | none =>
      have hnone := Grid.bounds_eq_none_iff.mp hused a
      rw [Sheet.cell?, hnone] at hstored
      cases hstored
  | some used =>
      obtain ⟨hrows, hcolumns⟩ := Grid.isGreatest_bounds hused
      obtain ⟨hrow, -, hcolumn, -⟩ := hwithin.cells a hstored
      have hfield : options.cellField library (s.cell? a) = .error (.spanTooLong x) :=
        (cellField_eq_error_iff h).mpr ⟨x, hdate, hspan, rfl⟩
      obtain ⟨fault, hrecords⟩ := exists_records_eq_error hused
        ⟨hrow, hrows.2 ⟨a, hstored, rfl⟩⟩ ⟨hcolumn, hcolumns.2 ⟨a, hstored, rfl⟩⟩ hfield
      obtain ⟨b, y, hb, hy, rfl⟩ := records_eq_error h hused hrecords
      refine ⟨b, y, hb, hy, ?_⟩
      rw [write, hrecords]
      rfl

theorem exists_cellField (h : PatternsValid library options)
    (hspan : ∀ a x, s.valueAt a = .date x → ¬PastSpan x) (a : Address) :
    ∃ field, options.cellField library (s.cell? a) = .ok field := by
  cases hfield : options.cellField library (s.cell? a) with
  | ok field => exact ⟨field, rfl⟩
  | error fault =>
      obtain ⟨x, hdate, hpast, -⟩ := (cellField_eq_error_iff h).mp hfield
      exact absurd hpast (hspan a x hdate)

/-- Without such a date the sheet is written, and a date without a moment as its number. -/
theorem write_eq_ok (h : PatternsValid library options) (hquotes : library.QuotesSpecial)
    (hapart : options.Apart) (hwithin : s.Within) (hclear : s.RegionsClear)
    (hspan : ∀ a x, s.valueAt a = .date x → ¬PastSpan x) :
    ∃ bytes records, options.write library s = .ok bytes ∧
      (∀ skipsBlank, (options.form skipsBlank).read bytes = some records) ∧
      ∀ a x, s.valueAt a = .date x → ¬Kept x →
        fieldAt? records a = some (Text.bytes x.text.toList) := by
  choose field hfield using exists_cellField h hspan
  cases hused : s.usedRange with
  | none =>
      refine ⟨[], [], ?_, fun _ => rfl, ?_⟩
      · rw [write, records, hused]
        rfl
      · intro a x hdate
        obtain ⟨c, hc, -⟩ := (Sheet.valueAt_eq_iff Value.noConfusion).mp hdate
        rw [Sheet.cell?, Grid.bounds_eq_none_iff.mp hused a] at hc
        cases hc
  | some used =>
      have hshows := shows_table hwithin hclear hused hfield
      obtain ⟨a, hstored, hwidth⟩ := hshows.columns.1
      have hpos : 1 ≤ used.last.column := hwidth ▸ (hwithin.cells a hstored).2.2.1
      obtain ⟨bytes, hbytes, hread⟩ := read_recordsBytes hapart hquotes hpos hshows.lengths
      refine ⟨bytes, _, ?_, hread, ?_⟩
      · rw [write, records_eq hused hfield]
        exact hbytes
      · intro b x hdate hkept
        obtain ⟨c, hc, hvalue⟩ := (Sheet.valueAt_eq_iff Value.noConfusion).mp hdate
        obtain ⟨cs, hcs, hshown⟩ := hshows.stored b c hc
        rw [hvalue, valueText, dateText_of_not_kept hkept (hspan b x hdate)] at hcs
        obtain rfl := Except.ok.inj hcs
        exact hshown

theorem patternsValid_default : PatternsValid .usual ({} : Csv).options := by
  intro t _
  let first : DateTime := ⟨⟨1900, 1, 1⟩, 0, 0⟩
  have hfirst : (Calendar.format? first ({} : Csv).options.datePattern.toList).isSome = true ∧
      (Calendar.format? first ({} : Csv).options.momentPattern.toList).isSome = true := by
    decide +kernel
  exact ⟨(isSome_format? t first _).trans hfirst.1, (isSome_format? t first _).trans hfirst.2⟩

/-- The only serials that are not decoded are the finite ones whose days are more than 63 bits
of milliseconds can hold; of the others those have a moment that lie between 0 and the end of
the last day that is kept. A sheet is written unless it holds a date of the first kind, and a
date that has no moment is then written as a number. -/
theorem write_dates (x : Binary64) (name : String) (operations : List Operation) :
    let options := ({} : Csv).options
    let s := (Sheet.new name).after operations
    ((decode x = .spanTooLong ↔ PastSpan x) ∧ ((∃ t, decode x = .moment t) ↔ Kept x) ∧
      (decode x = .unrepresentable ↔ ¬Kept x ∧ ¬PastSpan x)) ∧
    ((∃ a y, s.valueAt a = .date y ∧ PastSpan y ∧
        options.write .usual s = .error (.spanTooLong y)) ∨
      (∀ a y, s.valueAt a = .date y → ¬PastSpan y) ∧
        ∃ bytes records, options.write .usual s = .ok bytes ∧
          (∀ skipsBlank, (options.form skipsBlank).read bytes = some records) ∧
          ∀ a y, s.valueAt a = .date y → ¬Kept y →
            fieldAt? records a = some (Text.bytes y.text.toList)) := by
  intro options s
  refine ⟨⟨decode_eq_spanTooLong_iff, decode_eq_moment_iff, decode_eq_unrepresentable_iff⟩, ?_⟩
  have hwithin : s.Within := (Sheet.reached_after name operations).within
  have hclear : s.RegionsClear := Sheet.regionsClear_after name operations
  by_cases hspan : ∃ a y, s.valueAt a = .date y ∧ PastSpan y
  · obtain ⟨a, y, hdate, hpast⟩ := hspan
    exact .inl (write_eq_error patternsValid_default hwithin hdate hpast)
  · have hnone : ∀ a y, s.valueAt a = .date y → ¬PastSpan y :=
      fun a y hdate hpast => hspan ⟨a, y, hdate, hpast⟩
    have hapart : options.Apart := by constructor <;> decide
    exact .inr ⟨hnone, write_eq_ok patternsValid_default CsvLibrary.quotesSpecial_usual hapart
      hwithin hclear hnone⟩

/-- A million million days. -/
theorem write_dates_trillion :
    let x := Binary64.ofInt 1000000000000
    let s := (Sheet.new "Data").after [.edit (.value ⟨1, 1⟩ (.date x))]
    decode x = .spanTooLong ∧ ¬((∃ t, decode x = .moment t) ∨ decode x = .unrepresentable) ∧
      ({} : Csv).options.write .usual s = .error (.spanTooLong x) := by
  intro x s
  have hdecode : decode x = .spanTooLong := by decide +kernel
  refine ⟨hdecode, ?_, by decide +kernel⟩
  rw [hdecode]
  rintro (⟨t, ht⟩ | ht) <;> cases ht

end CsvOptions

end TableBook
