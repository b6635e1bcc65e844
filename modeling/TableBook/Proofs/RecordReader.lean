import TableBook.Csv

/-!
A reader of records that goes by the rules of RFC 4180: fields are separated by
one byte, records by line ends, and a field between quotes may hold both, and
quotes that are written twice. What breaks the rules is not read at all. Main
statement: `read_recordsBytes`, the records that are written are read back.
-/

namespace TableBook

/-- What a reader goes by. Whether lines with nothing on them are records is left
open. -/
structure RecordForm where
  delimiter : UInt8
  quote : UInt8
  skipsBlank : Bool

namespace RecordForm

inductive Place
  /-- Before the first byte of a record. -/
  | record
  /-- Before the first byte of a later field. -/
  | field
  | plain
  | quoted
  /-- After a quote between quotes, which ends the field or is the first of two. -/
  | closing
  /-- After a carriage return, on a line that holds nothing else or on another. -/
  | lineEnd (blank : Bool)
deriving DecidableEq

/-- What is read so far. -/
structure Progress where
  place : Place
  records : List (List (List UInt8))
  fields : List (List UInt8)
  field : List UInt8

namespace Progress

def push (p : Progress) (place : Place) (b : UInt8) : Progress :=
  { p with place, field := p.field ++ [b] }

def endField (p : Progress) : Progress :=
  { p with place := .field, fields := p.fields ++ [p.field], field := [] }

def endRecord (p : Progress) : Progress :=
  ⟨.record, p.records ++ [p.fields ++ [p.field]], [], []⟩

end Progress

variable (form : RecordForm)

def endLine (p : Progress) (blank : Bool) : Progress :=
  if blank && form.skipsBlank then { p with place := .record } else p.endRecord

def step (p : Progress) (b : UInt8) : Option Progress :=
  match p.place with
  | .quoted => some (if b = form.quote then { p with place := .closing } else p.push .quoted b)
  | .lineEnd blank => if b = 10 then some (form.endLine p blank) else none
  | place =>
      if b = form.delimiter then some p.endField
      else if b = 10 then some (form.endLine p (place = .record))
      else if b = 13 then some { p with place := .lineEnd (place = .record) }
      else if b = form.quote then
        match place with
        | .plain => none
        | .closing => some (p.push .quoted b)
        | _ => some { p with place := .quoted }
      else if place = .closing then none
      else some (p.push .plain b)

/-- The last record may lack its line end. -/
def finish (p : Progress) : Option (List (List (List UInt8))) :=
  match p.place with
  | .record => some p.records
  | .quoted => none
  | .lineEnd _ => none
  | _ => some p.endRecord.records

def run (p : Progress) (bytes : List UInt8) : Option Progress := bytes.foldlM form.step p

def read (bytes : List UInt8) : Option (List (List (List UInt8))) :=
  (form.run ⟨.record, [], [], []⟩ bytes).bind finish

example : RecordForm.read ⟨44, 34, true⟩ (Text.bytes "a,\"b\"\"c\"\r\n\n,".toList) =
    some [[Text.bytes "a".toList, Text.bytes "b\"c".toList], [[], []]] := by
  decide

section Fields

variable {form : RecordForm} {records : List (List (List UInt8))} {fields : List (List UInt8)}

/-- The places where a field may begin. -/
def Place.Fresh (place : Place) : Prop := place = .record ∨ place = .field

/-- The places where a field may end. -/
def Place.Open : Place → Prop
  | .quoted => False
  | .lineEnd _ => False
  | _ => True

theorem run_append (p : Progress) (bytes later : List UInt8) :
    form.run p (bytes ++ later) = (form.run p bytes).bind (form.run · later) :=
  List.foldlM_append

theorem run_cons (p : Progress) (b : UInt8) (bytes : List UInt8) :
    form.run p (b :: bytes) = (form.step p b).bind (form.run · bytes) := rfl

/-- A byte that means nothing to the reader. -/
structure Inert (form : RecordForm) (b : UInt8) : Prop where
  delimiter : b ≠ form.delimiter
  quote : b ≠ form.quote
  feed : b ≠ 10
  carriage : b ≠ 13

theorem step_of_inert {place : Place} {field : List UInt8} {b : UInt8} (h : form.Inert b)
    (hplace : place.Fresh ∨ place = .plain) :
    form.step ⟨place, records, fields, field⟩ b =
      some ⟨.plain, records, fields, field ++ [b]⟩ := by
  have hnot : place ≠ .closing := by
    rintro rfl
    rcases hplace with (h | h) | h <;> cases h
  rcases hplace with (rfl | rfl) | rfl <;>
    simp [step, h.delimiter, h.quote, h.feed, h.carriage, Progress.push]

theorem run_plain {field bytes : List UInt8} (h : ∀ b ∈ bytes, form.Inert b) :
    form.run ⟨.plain, records, fields, field⟩ bytes =
      some ⟨.plain, records, fields, field ++ bytes⟩ := by
  induction bytes generalizing field with
  | nil =>
      rw [List.append_nil]
      rfl
  | cons b rest ih =>
      rw [List.forall_mem_cons] at h
      rw [run_cons, step_of_inert h.1 (.inr rfl), Option.bind_some, ih h.2, List.append_assoc,
        List.singleton_append]

end Fields

end RecordForm

/-- Fields that hold a special byte are put in quotes, whichever others are. -/
def CsvLibrary.QuotesSpecial (library : CsvLibrary) : Prop :=
  ∀ options field, field.any options.isSpecial = true → library.quotes options field = true

theorem CsvLibrary.quotesSpecial_usual : CsvLibrary.usual.QuotesSpecial := fun _ _ h => h

namespace CsvOptions

open RecordForm

/-- The bytes that stand between fields and around them can be told from each
other and from line ends. -/
structure Apart (options : CsvOptions) : Prop where
  delimiter_ne_quote : options.delimiter ≠ options.quote
  delimiter_ne_feed : options.delimiter ≠ 10
  delimiter_ne_carriage : options.delimiter ≠ 13
  quote_ne_feed : options.quote ≠ 10
  quote_ne_carriage : options.quote ≠ 13

def form (options : CsvOptions) (skipsBlank : Bool) : RecordForm :=
  ⟨options.delimiter, options.quote, skipsBlank⟩

variable {library : CsvLibrary} {options : CsvOptions} {skipsBlank : Bool}
  {records : List (List (List UInt8))} {fields : List (List UInt8)}

theorem inert_of_not_isSpecial {b : UInt8} (h : options.isSpecial b = false) :
    (options.form skipsBlank).Inert b := by
  simp only [isSpecial, Bool.or_eq_false_iff, beq_eq_false_iff_ne] at h
  exact ⟨h.1.1.1, h.1.1.2, h.2, h.1.2⟩

theorem step_quote_of_fresh (h : options.Apart) {place : Place} (hplace : place.Fresh) :
    (options.form skipsBlank).step ⟨place, records, fields, []⟩ options.quote =
      some ⟨.quoted, records, fields, []⟩ := by
  rcases hplace with rfl | rfl <;>
    simp [step, form, h.delimiter_ne_quote.symm, h.quote_ne_feed, h.quote_ne_carriage]

theorem step_quote_of_closing (h : options.Apart) {field : List UInt8} :
    (options.form skipsBlank).step ⟨.closing, records, fields, field⟩ options.quote =
      some ⟨.quoted, records, fields, field ++ [options.quote]⟩ := by
  simp [step, form, h.delimiter_ne_quote.symm, h.quote_ne_feed, h.quote_ne_carriage, Progress.push]

/-- Between quotes a quote is read as the first of two. -/
theorem run_doubleQuotes (h : options.Apart) (field bytes : List UInt8) :
    (options.form skipsBlank).run ⟨.quoted, records, fields, field⟩ (options.doubleQuotes bytes) =
      some ⟨.quoted, records, fields, field ++ bytes⟩ := by
  induction bytes generalizing field with
  | nil =>
      rw [List.append_nil]
      rfl
  | cons b rest ih =>
      have hlater := ih (field ++ [b])
      rw [List.append_assoc, List.singleton_append] at hlater
      rw [doubleQuotes]
      split
      · next hquote =>
          subst hquote
          have hclose : (options.form skipsBlank).step ⟨.quoted, records, fields, field⟩
              options.quote = some ⟨.closing, records, fields, field⟩ := by
            simp [step, form]
          rw [run_cons, hclose, Option.bind_some, run_cons, step_quote_of_closing h]
          exact hlater
      · next hquote =>
          have hpush : (options.form skipsBlank).step ⟨.quoted, records, fields, field⟩ b =
              some ⟨.quoted, records, fields, field ++ [b]⟩ := by
            simp [step, form, hquote, Progress.push]
          rw [run_cons, hpush]
          exact hlater

theorem run_quoted (h : options.Apart) {place : Place} (hplace : place.Fresh)
    (field : List UInt8) :
    (options.form skipsBlank).run ⟨place, records, fields, []⟩ (options.quoted field) =
      some ⟨.closing, records, fields, field⟩ := by
  rw [quoted, List.cons_append, run_cons, step_quote_of_fresh h hplace, Option.bind_some,
    run_append, run_doubleQuotes h, Option.bind_some, List.nil_append, run_cons]
  simp [step, form, run]

/-- A field is read back, and does not look like a line with nothing on it unless
it is empty and the first one. -/
theorem run_fieldBytes (h : options.Apart) (hlibrary : library.QuotesSpecial) {place : Place}
    (hplace : place.Fresh) (skipsBlank : Bool) (records : List (List (List UInt8)))
    (fields : List (List UInt8)) (field : List UInt8) :
    ∃ later : Place, later.Open ∧ (later = .record → place = .record ∧ field = []) ∧
      (options.form skipsBlank).run ⟨place, records, fields, []⟩
          (options.fieldBytes library field) =
        some ⟨later, records, fields, field⟩ := by
  rw [fieldBytes]
  split
  · exact ⟨.closing, trivial, nofun, run_quoted h hplace field⟩
  · next hquotes =>
      have hspecial : field.any options.isSpecial = false :=
        Bool.eq_false_iff.mpr fun hany => hquotes (hlibrary options field hany)
      have hinert : ∀ b ∈ field, (options.form skipsBlank).Inert b := by
        intro b hb
        exact inert_of_not_isSpecial (Bool.eq_false_iff.mpr (List.any_eq_false.mp hspecial b hb))
      cases field with
      | nil =>
          refine ⟨place, ?_, fun hrecord => ⟨hrecord, rfl⟩, rfl⟩
          rcases hplace with rfl | rfl <;> trivial
      | cons b rest =>
          rw [List.forall_mem_cons] at hinert
          refine ⟨.plain, trivial, nofun, ?_⟩
          rw [run_cons, step_of_inert hinert.1 (.inl hplace), Option.bind_some,
            run_plain hinert.2]
          rfl

theorem step_delimiter {place : Place} (hplace : place.Open) (field : List UInt8) :
    (options.form skipsBlank).step ⟨place, records, fields, field⟩ options.delimiter =
      some ⟨.field, records, fields ++ [field], []⟩ := by
  cases place <;> first | exact hplace.elim | simp [step, form, Progress.endField]

theorem run_fields (h : options.Apart) (hlibrary : library.QuotesSpecial) {place : Place}
    (hplace : place.Fresh) (skipsBlank : Bool) (records : List (List (List UInt8)))
    (fields : List (List UInt8)) (field : List UInt8) (rest : List (List UInt8)) :
    ∃ later : Place, ∃ before last, later.Open ∧
      (later = .record → place = .record ∧ field = [] ∧ rest = []) ∧
      before ++ [last] = fields ++ field :: rest ∧
      (options.form skipsBlank).run ⟨place, records, fields, []⟩
          ([options.delimiter].intercalate ((field :: rest).map (options.fieldBytes library))) =
        some ⟨later, records, before, last⟩ := by
  induction rest generalizing place fields field with
  | nil =>
      obtain ⟨later, hopen, hblank, hrun⟩ :=
        run_fieldBytes h hlibrary hplace skipsBlank records fields field
      refine ⟨later, fields, field, hopen, ?_, rfl, ?_⟩
      · intro hrecord
        exact ⟨(hblank hrecord).1, (hblank hrecord).2, rfl⟩
      · rw [List.map_singleton, List.intercalate_singleton]
        exact hrun
  | cons next rest ih =>
      obtain ⟨place', hopen', -, hrun⟩ :=
        run_fieldBytes h hlibrary hplace skipsBlank records fields field
      obtain ⟨later, before, last, hopen, hblank, hfields, hlater⟩ :=
        ih (.inr rfl) (fields ++ [field]) next
      refine ⟨later, before, last, hopen, ?_, ?_, ?_⟩
      · intro hrecord
        cases (hblank hrecord).1
      · rw [hfields, List.append_assoc, List.singleton_append]
      · rw [List.map_cons, List.map_cons, List.intercalate_cons_cons, List.append_assoc,
          run_append, hrun, Option.bind_some, List.singleton_append, run_cons,
          step_delimiter hopen', Option.bind_some]
        exact hlater

/-- A line end finishes a record that does not look blank. -/
theorem run_lineEnd (h : options.Apart) {place : Place} (hplace : place.Open)
    (hne : place ≠ .record) (field : List UInt8) :
    (options.form skipsBlank).run ⟨place, records, fields, field⟩ options.lineEnd.bytes =
      some ⟨.record, records ++ [fields ++ [field]], [], []⟩ := by
  have hfeed : (options.form skipsBlank).step ⟨place, records, fields, field⟩ 10 =
      some ⟨.record, records ++ [fields ++ [field]], [], []⟩ := by
    cases place <;>
      simp_all [Place.Open, step, form, h.delimiter_ne_feed.symm, endLine, Progress.endRecord]
  have hreturn : (options.form skipsBlank).step ⟨place, records, fields, field⟩ 13 =
      some ⟨.lineEnd false, records, fields, field⟩ := by
    cases place <;> simp_all [Place.Open, step, form, h.delimiter_ne_carriage.symm]
  cases options.lineEnd with
  | lf => rw [LineEnd.bytes, run_cons, hfeed]; rfl
  | crlf => rw [LineEnd.bytes, run_cons, hreturn]; rfl

theorem run_recordBytes (h : options.Apart) (hlibrary : library.QuotesSpecial)
    (hne : fields ≠ []) :
    (options.form skipsBlank).run ⟨.record, records, [], []⟩ (options.recordBytes library fields) =
      some ⟨.record, records ++ [fields], [], []⟩ := by
  by_cases hlone : fields = [[]]
  · subst hlone
    rw [recordBytes, run_append, run_quoted h (.inl rfl), Option.bind_some]
    have hopen : Place.closing.Open := trivial
    exact run_lineEnd h hopen nofun []
  · obtain ⟨field, rest, rfl⟩ := List.exists_cons_of_ne_nil hne
    obtain ⟨later, before, last, hopen, hblank, hfields, hrun⟩ :=
      run_fields h hlibrary (.inl rfl) skipsBlank records [] field rest
    have hseen : later ≠ .record := by
      intro hrecord
      obtain ⟨-, rfl, rfl⟩ := hblank hrecord
      exact hlone rfl
    rw [recordBytes, run_append, hrun, Option.bind_some, run_lineEnd h hopen hseen, hfields,
      List.nil_append]
    exact hlone

theorem run_recordsBytes (h : options.Apart) (hlibrary : library.QuotesSpecial)
    {all : List (List (List UInt8))} {length : Nat} (hpos : 1 ≤ length) (expected : Option Nat)
    (hexpected : ∀ n ∈ expected, n = length) (hlength : ∀ fields ∈ all, fields.length = length) :
    ∃ bytes, options.recordsBytes library expected all = .ok bytes ∧
      ∀ skipsBlank records, (options.form skipsBlank).run ⟨.record, records, [], []⟩ bytes =
        some ⟨.record, records ++ all, [], []⟩ := by
  induction all generalizing expected with
  | nil =>
      refine ⟨[], rfl, ?_⟩
      intro skipsBlank records
      rw [List.append_nil]
      rfl
  | cons fields rest ih =>
      rw [List.forall_mem_cons] at hlength
      have hfirst : expected.getD fields.length = length := by
        cases expected with
        | none => exact hlength.1
        | some n => exact hexpected n rfl
      obtain ⟨later, hok, hlater⟩ := ih (some length) (by simp) hlength.2
      have hne : fields ≠ [] := List.ne_nil_of_length_pos (hlength.1 ▸ hpos)
      refine ⟨options.recordBytes library fields ++ later, ?_, ?_⟩
      · rw [recordsBytes, hfirst]
        simp only [hlength.1, if_true, hok]
        rfl
      · intro skipsBlank records
        rw [run_append, run_recordBytes h hlibrary hne, Option.bind_some, hlater,
          List.append_assoc, List.singleton_append]

/-- Records of one length are written without a fault and read back. -/
theorem read_recordsBytes (h : options.Apart) (hlibrary : library.QuotesSpecial)
    {all : List (List (List UInt8))} {length : Nat} (hpos : 1 ≤ length)
    (hlength : ∀ fields ∈ all, fields.length = length) :
    ∃ bytes, options.recordsBytes library none all = .ok bytes ∧
      ∀ skipsBlank, (options.form skipsBlank).read bytes = some all := by
  obtain ⟨bytes, hok, hrun⟩ := run_recordsBytes h hlibrary hpos none (by simp) hlength
  refine ⟨bytes, hok, ?_⟩
  intro skipsBlank
  rw [RecordForm.read, hrun, List.nil_append]
  rfl

end CsvOptions

end TableBook
