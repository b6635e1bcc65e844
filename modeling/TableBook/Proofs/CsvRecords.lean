import TableBook.Proofs.Reached
import TableBook.Proofs.RecordReader
import TableBook.Proofs.Regions
import TableBook.Proofs.SerialDay

namespace TableBook

namespace CsvOptions

variable {library : CsvLibrary} {options : CsvOptions} {s : Sheet}

/-- Every moment can be written after both patterns. -/
def PatternsValid (library : CsvLibrary) (options : CsvOptions) : Prop :=
  ∀ t : DateTime, t.Regular → (library.format t options.datePattern.toList).isSome = true ∧
    (library.format t options.momentPattern.toList).isSome = true

def fieldAt? (records : List (List (List UInt8))) (a : Address) : Option (List UInt8) :=
  records[a.row - 1]?.bind (·[a.column - 1]?)

/-- What `width` fields to the record say of a sheet that stores something. -/
structure Shows (library : CsvLibrary) (options : CsvOptions) (s : Sheet) (width : Nat)
    (records : List (List (List UInt8))) : Prop where
  rows : IsGreatest {row | ∃ a, (s.cell? a).isSome = true ∧ a.row = row} records.length
  columns : IsGreatest {column | ∃ a, (s.cell? a).isSome = true ∧ a.column = column} width
  lengths : ∀ fields ∈ records, fields.length = width
  stored : ∀ a c, s.cell? a = some c → ∃ cs, options.valueText library c.value = .ok cs ∧
    fieldAt? records a = some (Text.bytes cs)
  missing : ∀ a, (1 ≤ a.row ∧ a.row ≤ records.length) → (1 ≤ a.column ∧ a.column ≤ width) →
    s.cell? a = none → fieldAt? records a = some []
  covered : ∀ a, (1 ≤ a.row ∧ a.row ≤ records.length) → (1 ≤ a.column ∧ a.column ≤ width) →
    (∃ m ∈ s.merges, m.covers a = true) → fieldAt? records a = some []

section Fields

theorem isSome_partText? (t u : DateTime) (letter : Char) :
    (Calendar.partText? t letter).isSome = (Calendar.partText? u letter).isSome := by
  fun_cases Calendar.partText? t letter <;> simp [Calendar.partText?, *]

theorem isSome_format?_letter (t : DateTime) (letter : Char) (cs : List Char) :
    (Calendar.format? t ('%' :: letter :: cs)).isSome =
      ((Calendar.partText? t letter).isSome && (Calendar.format? t cs).isSome) := by
  rw [Calendar.format?]
  cases Calendar.partText? t letter <;> cases Calendar.format? t cs <;> rfl

/-- Whether a pattern can be followed is the same for all moments. -/
theorem isSome_format? (t u : DateTime) (pattern : List Char) :
    (Calendar.format? t pattern).isSome = (Calendar.format? u pattern).isSome := by
  induction pattern using Calendar.format?.induct t with
  | case1 => rfl
  | case2 letter cs part rest hpart hrest ih =>
      rw [isSome_format?_letter, isSome_format?_letter, ih, isSome_partText? t u]
  | case3 letter cs hnone ih =>
      rw [isSome_format?_letter, isSome_format?_letter, ih, isSome_partText? t u]
  | case4 => rfl
  | case5 c cs hletter hlone ih =>
      have hcons (v : DateTime) :
          Calendar.format? v (c :: cs) = (Calendar.format? v cs).map (c :: ·) := by
        rw [Calendar.format?] <;> assumption
      rw [hcons, hcons, Option.isSome_map, Option.isSome_map, ih]

theorem patternFor_valid (h : PatternsValid library options) {t : DateTime} (ht : t.Regular) :
    ∃ cs, library.format t (options.patternFor t).toList = some cs := by
  rw [← Option.isSome_iff_exists, patternFor]
  split
  · exact (h t ht).1
  · exact (h t ht).2

theorem exists_dateText (h : PatternsValid library options) {serial : Binary64}
    (hserial : Serial.decode serial ≠ .spanTooLong) :
    ∃ cs, options.dateText library serial = .ok cs := by
  rw [dateText]
  split
  · next t ht =>
      obtain ⟨cs, hcs⟩ := patternFor_valid h (Serial.regular_of_decode ht)
      rw [hcs]
      exact ⟨cs, rfl⟩
  · exact ⟨_, rfl⟩
  · next hspan => exact absurd hspan hserial

theorem exists_valueText (h : PatternsValid library options) {v : Value}
    (hserial : ∀ serial, v = .date serial → Serial.decode serial ≠ .spanTooLong) :
    ∃ cs, options.valueText library v = .ok cs := by
  cases v with
  | date serial => exact exists_dateText h (hserial serial rfl)
  | _ => exact ⟨_, rfl⟩

end Fields

section Records

/-- The fields of all positions from the first one to a row and a column. -/
def table (field : Address → List UInt8) (rows columns : Nat) : List (List (List UInt8)) :=
  (upTo rows).map fun row => (upTo columns).map fun column => field ⟨row, column⟩

/-- The records are made of the fields of all positions of the used range. -/
theorem records_of_usedRange {used : Range} (hused : s.usedRange = some used) :
    options.records library s = (upTo used.last.row).mapM fun row =>
      (upTo used.last.column).mapM fun column =>
        options.cellField library (s.cell? ⟨row, column⟩) := by
  have hget (row column : Nat) :
      ((s.grid.rows.get? row).getD ∅).get? column = s.cell? ⟨row, column⟩ := by
    rw [Sheet.cell?, Grid.get?]
    cases s.grid.rows.get? row <;> rfl
  rw [records, hused]
  simp only [rowFields, hget]

theorem records_eq {used : Range} (hused : s.usedRange = some used)
    {field : Address → List UInt8}
    (hfield : ∀ a, options.cellField library (s.cell? a) = .ok (field a)) :
    options.records library s = .ok (table field used.last.row used.last.column) := by
  rw [records_of_usedRange hused]
  apply mapM_eq_ok
  intro row _
  exact mapM_eq_ok fun column _ => hfield ⟨row, column⟩

theorem length_of_mem_table {field : Address → List UInt8} {rows columns : Nat}
    {fields : List (List UInt8)} (h : fields ∈ table field rows columns) :
    fields.length = columns := by
  obtain ⟨row, -, rfl⟩ := List.mem_map.mp h
  simp [upTo]

theorem fieldAt?_table (field : Address → List UInt8) {rows columns : Nat} {a : Address}
    (hrow : 1 ≤ a.row ∧ a.row ≤ rows) (hcolumn : 1 ≤ a.column ∧ a.column ≤ columns) :
    fieldAt? (table field rows columns) a = some (field a) := by
  have hupTo {n m : Nat} (h : 1 ≤ n ∧ n ≤ m) : (upTo m)[n - 1]? = some n := by
    simp only [upTo, List.getElem?_map]
    rw [List.getElem?_range (by omega)]
    simp only [Option.map_some, Option.some.injEq]
    omega
  rw [fieldAt?, table, List.getElem?_map, hupTo hrow, Option.map_some, Option.bind_some,
    List.getElem?_map, hupTo hcolumn, Option.map_some]

theorem cellField_eq_ok {field : Address → List UInt8} {a : Address} {c : Cell}
    (hfield : options.cellField library (s.cell? a) = .ok (field a)) (hc : s.cell? a = some c) :
    ∃ cs, options.valueText library c.value = .ok cs ∧ field a = Text.bytes cs := by
  rw [hc, cellField] at hfield
  cases hvalue : options.valueText library c.value with
  | error fault =>
      rw [hvalue] at hfield
      cases hfield
  | ok cs =>
      rw [hvalue] at hfield
      exact ⟨cs, rfl, (Except.ok.inj hfield).symm⟩

/-- The table of the fields shows the sheet, if covered positions hold nothing. -/
theorem shows_table (hwithin : s.Within) (hclear : s.RegionsClear) {used : Range}
    (hused : s.usedRange = some used) {field : Address → List UInt8}
    (hfield : ∀ a, options.cellField library (s.cell? a) = .ok (field a)) :
    Shows library options s used.last.column (table field used.last.row used.last.column) := by
  obtain ⟨hrows, hcolumns⟩ := Grid.isGreatest_bounds hused
  have hlength : (table field used.last.row used.last.column).length = used.last.row := by
    simp [table, upTo]
  have hempty : ∀ a, s.cell? a = none → field a = [] := by
    intro a ha
    have hok := hfield a
    rw [ha] at hok
    exact (Except.ok.inj hok).symm
  constructor
  · rw [hlength]
    exact hrows
  · exact hcolumns
  · exact fun _ => length_of_mem_table
  · intro a c hc
    have hstored : (s.cell? a).isSome = true := by rw [hc, Option.isSome_some]
    have hbounds := hwithin.cells a hstored
    obtain ⟨cs, hcs, hof⟩ := cellField_eq_ok (hfield a) hc
    refine ⟨cs, hcs, ?_⟩
    rw [← hof]
    exact fieldAt?_table field ⟨hbounds.1, hrows.2 ⟨a, hstored, rfl⟩⟩
      ⟨hbounds.2.2.1, hcolumns.2 ⟨a, hstored, rfl⟩⟩
  · intro a hrow hcolumn hnone
    rw [hlength] at hrow
    rw [fieldAt?_table field hrow hcolumn, hempty a hnone]
  · rintro a hrow hcolumn ⟨m, hm, hcovers⟩
    rw [hlength] at hrow
    rw [fieldAt?_table field hrow hcolumn]
    cases hc : s.cell? a with
    | none => rw [hempty a hc]
    | some c =>
        obtain ⟨cs, hcs, hof⟩ := cellField_eq_ok (hfield a) hc
        rw [hclear.empty m hm a c hcovers hc] at hcs
        obtain rfl := Except.ok.inj hcs
        rw [hof]
        rfl

end Records

/-- Whatever operations made it, a sheet whose dates are not too late is written,
and whoever reads it by the rules finds one record for every row, one field for
every column, and in it what is stored. -/
theorem read_write (library : CsvLibrary) (options : CsvOptions) (name : String)
    (operations : List Operation) (hquotes : library.QuotesSpecial)
    (hpatterns : PatternsValid library options) (hapart : options.Apart)
    (hserials : ∀ a c serial, ((Sheet.new name).after operations).cell? a = some c →
      c.value = .date serial → (Binary64.ofInt 100000000).atMost serial = false) :
    let s := (Sheet.new name).after operations
    ∃ bytes records, options.write library s = .ok bytes ∧
      (∀ skipsBlank, (options.form skipsBlank).read bytes = some records) ∧
      ((∀ a, s.cell? a = none) ∧ records = [] ∨
        ∃ width, Shows library options s width records) := by
  intro s
  have hwithin : s.Within := (Sheet.reached_after name operations).within
  have hclear : s.RegionsClear := Sheet.regionsClear_after name operations
  have hfields : ∀ a, ∃ field, options.cellField library (s.cell? a) = .ok field := by
    intro a
    cases hc : s.cell? a with
    | none => exact ⟨[], rfl⟩
    | some c =>
        obtain ⟨cs, hcs⟩ := exists_valueText hpatterns (v := c.value) fun serial hdate =>
          Serial.decode_ne_spanTooLong (hserials a c serial hc hdate)
        refine ⟨Text.bytes cs, ?_⟩
        rw [cellField, hcs]
        rfl
  choose field hfield using hfields
  cases hused : s.usedRange with
  | none =>
      refine ⟨[], [], ?_, fun _ => rfl, .inl ⟨Grid.bounds_eq_none_iff.mp hused, rfl⟩⟩
      rw [write, records, hused]
      rfl
  | some used =>
      have hshows := shows_table hwithin hclear hused hfield
      obtain ⟨a, hstored, hwidth⟩ := hshows.columns.1
      have hpos : 1 ≤ used.last.column := hwidth ▸ (hwithin.cells a hstored).2.2.1
      obtain ⟨bytes, hbytes, hread⟩ := read_recordsBytes hapart hquotes hpos hshows.lengths
      refine ⟨bytes, _, ?_, hread, .inr ⟨_, hshows⟩⟩
      rw [write, records_eq hused hfield]
      exact hbytes

/-- A title over two columns that holds a delimiter, and a noon below it. -/
theorem read_write_title :
    let options : CsvOptions := ({} : Csv).options
    let operations : List Operation := [.edit (.value ⟨1, 1⟩ (.text "a,b")),
      .edit (.merge (.ofSpans ⟨1, 1⟩ 2 1)),
      .edit (.value ⟨2, 2⟩ (.date (.ofRatio false 90585 2)))]
    let s := (Sheet.new "Data").after operations
    let written := Text.bytes "\"a,b\",\r\n,2024-01-01 12:00:00\r\n".toList
    options.write .usual s = .ok written ∧
      ∃ records width, Shows .usual options s width records ∧
        ∀ skipsBlank, (options.form skipsBlank).read written = some records := by
  intro options operations s written
  have hwritten : (options.write .usual s).toOption = some written := by decide +kernel
  have hpatterns : PatternsValid .usual options := by
    intro t _
    let first : DateTime := ⟨⟨1900, 1, 1⟩, 0, 0⟩
    have hfirst : (Calendar.format? first options.datePattern.toList).isSome = true ∧
        (Calendar.format? first options.momentPattern.toList).isSome = true := by
      decide +kernel
    exact ⟨(isSome_format? t first _).trans hfirst.1, (isSome_format? t first _).trans hfirst.2⟩
  have hapart : options.Apart := by constructor <;> decide
  have hearly : ∀ e ∈ s.grid.cells, ∀ serial ∈ e.2.value.asNumber,
      (Binary64.ofInt 100000000).atMost serial = false := by
    decide +kernel
  have hserials : ∀ a c serial, s.cell? a = some c → c.value = .date serial →
      (Binary64.ofInt 100000000).atMost serial = false := by
    intro a c serial hc hdate
    refine hearly (a, c) (Grid.mem_cells_iff.mpr hc) serial ?_
    rw [hdate]
    rfl
  obtain ⟨bytes, records, hok, hread, hshows⟩ :=
    read_write .usual options "Data" operations CsvLibrary.quotesSpecial_usual hpatterns hapart
      hserials
  obtain rfl : bytes = written := by
    rw [hok] at hwritten
    exact Option.some.inj hwritten
  refine ⟨hok, records, ?_⟩
  rcases hshows with ⟨hnone, -⟩ | ⟨width, hshows⟩
  · have hstored : (s.cell? ⟨1, 1⟩).isSome = true := by decide +kernel
    rw [hnone] at hstored
    cases hstored
  · exact ⟨width, hshows, hread⟩

end CsvOptions

end TableBook
