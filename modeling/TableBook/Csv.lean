import TableBook.Calendar.Format
import TableBook.Calendar.Serial
import TableBook.Disk
import TableBook.Sheet
import TableBook.Text.Bytes

/-!
Sheets as text: one record for every row from the first to the last used one,
and in it one field for every column. What is written are bytes, since any byte
may be asked for between the fields.
-/

namespace TableBook

inductive LineEnd
  | crlf
  | lf
deriving DecidableEq, Repr

def LineEnd.bytes : LineEnd → List UInt8
  | crlf => [13, 10]
  | lf => [10]

structure CsvOptions where
  delimiter : UInt8
  quote : UInt8
  lineEnd : LineEnd
  /-- The pattern of dates at midnight. -/
  datePattern : String
  /-- The pattern of all other dates. -/
  momentPattern : String
deriving DecidableEq, Repr

/-- A byte that a field holds only in quotes. -/
def CsvOptions.isSpecial (options : CsvOptions) (b : UInt8) : Bool :=
  b == options.delimiter || b == options.quote || b == 13 || b == 10

inductive CsvFault
  | noSheet (index count : Nat)
  /-- A date cannot be written after the pattern. -/
  | badPattern (pattern : String)
  /-- The days of a serial cannot be counted. -/
  | spanTooLong (serial : Binary64)
  /-- A record has not as many fields as the first one. -/
  | unequalLengths (expected found : Nat)
  /-- What was written is not the text of any characters. -/
  | notText
deriving DecidableEq, Repr

def CsvFault.message : CsvFault → String
  | noSheet index count => s!"Sheet index {index} out of bounds (workbook has {count} sheets)"
  | badPattern pattern => "Invalid date pattern '" ++ pattern ++ "'"
  | spanTooLong serial => "Serial out of range: " ++ serial.text
  | unequalLengths expected found =>
      s!"CSV error: CSV error: found record with {found} fields, " ++
        s!"but the previous record has {expected} fields"
  | notText => "Text is not valid UTF-8"

/-- What the writing leaves to others: how a date is written after a pattern, if
it can be, and which fields are put in quotes. -/
structure CsvLibrary where
  format : DateTime → List Char → Option (List Char)
  quotes : CsvOptions → List UInt8 → Bool

/-- Only those fields are put in quotes that hold a special byte. -/
def CsvLibrary.usual : CsvLibrary where
  format := Calendar.format?
  quotes options field := field.any options.isSpecial

namespace CsvOptions

variable (library : CsvLibrary) (options : CsvOptions)

def patternFor (t : DateTime) : String :=
  if t.second = 0 then options.datePattern else options.momentPattern

/-- The text of a date; a serial that has none is written as a number. -/
def dateText (serial : Binary64) : Except CsvFault (List Char) :=
  match Serial.decode serial with
  | .moment t =>
      match library.format t (options.patternFor t).toList with
      | some cs => .ok cs
      | none => .error (.badPattern (options.patternFor t))
  | .unrepresentable => .ok serial.text.toList
  | .spanTooLong => .error (.spanTooLong serial)

/-- The text of a value, before it is quoted. -/
def valueText : Value → Except CsvFault (List Char)
  | .date serial => options.dateText library serial
  | v => .ok v.shown.toList

def doubleQuotes : List UInt8 → List UInt8
  | [] => []
  | b :: bs =>
      if b = options.quote then b :: b :: doubleQuotes bs else b :: doubleQuotes bs

def quoted (field : List UInt8) : List UInt8 :=
  options.quote :: options.doubleQuotes field ++ [options.quote]

def fieldBytes (field : List UInt8) : List UInt8 :=
  if library.quotes options field then options.quoted field else field

/-- A record with its line end. One that is a single empty field is written as
two quotes, since an empty line would be no record. -/
def recordBytes (fields : List (List UInt8)) : List UInt8 :=
  (match fields with
    | [[]] => options.quoted []
    | fields => [options.delimiter].intercalate (fields.map (options.fieldBytes library))) ++
    options.lineEnd.bytes

/-- The records one after the other, all as long as the first one. -/
def recordsBytes (expected : Option Nat) : List (List (List UInt8)) → Except CsvFault (List UInt8)
  | [] => .ok []
  | fields :: rest =>
      let length := expected.getD fields.length
      if fields.length = length then do
        let later ← recordsBytes (some length) rest
        .ok (options.recordBytes library fields ++ later)
      else .error (.unequalLengths length fields.length)

/-- The numbers from 1 to `n`. -/
def upTo (n : Nat) : List Nat := (List.range n).map (· + 1)

/-- The field of a position; one that is not stored gives an empty field. -/
def cellField : Option Cell → Except CsvFault (List UInt8)
  | some c => (options.valueText library c.value).map Text.bytes
  | none => .ok []

def rowFields (row : CellRow) (columns : Nat) : Except CsvFault (List (List UInt8)) :=
  (upTo columns).mapM fun column => options.cellField library (row.get? column)

/-- The fields of a sheet, record by record; none if no cell is stored. -/
def records (s : Sheet) : Except CsvFault (List (List (List UInt8))) :=
  match s.usedRange with
  | none => .ok []
  | some used =>
      (upTo used.last.row).mapM fun row =>
        options.rowFields library ((s.grid.rows.get? row).getD ∅) used.last.column

def write (s : Sheet) : Except CsvFault (List UInt8) := do
  let records ← options.records library s
  options.recordsBytes library none records

end CsvOptions

/-- The options as they are asked for, with characters for the bytes. -/
structure Csv where
  delimiter : Char := ','
  quote : Char := '"'
  lineEnd : LineEnd := .crlf
  datePattern : String := "%Y-%m-%d"
  momentPattern : String := "%Y-%m-%d %H:%M:%S"
deriving DecidableEq, Repr

namespace Csv

/-- A character stands for its first byte. -/
def byteOf (c : Char) : UInt8 := (String.utf8EncodeChar c).headD 0

def options (csv : Csv) : CsvOptions :=
  { csv with delimiter := byteOf csv.delimiter, quote := byteOf csv.quote }

def write (csv : Csv) (s : Sheet) : Except CsvFault String := do
  let bytes ← csv.options.write .usual s
  match String.fromUTF8? ⟨bytes.toArray⟩ with
  | some text => .ok text
  | none => .error .notText

def writeSheet (csv : Csv) (w : Workbook) (index : Nat) : Except CsvFault String :=
  match w.sheet? index with
  | some s => csv.write s
  | none => .error (.noSheet index w.count)

end Csv

inductive SaveFault
  | csv (fault : CsvFault)
  | path (fault : PathFault)
deriving DecidableEq, Repr

def SaveFault.message : SaveFault → String
  | csv fault => fault.message
  | path fault => "IO error: " ++ fault.message

/-- The disk that saving leaves, and why it failed if it did. -/
structure Saving where
  disk : Disk
  fault : Option SaveFault := none
deriving Repr

/-- Put the text of a sheet into a new file. The file is made first, and stays
empty if the sheet has no text. -/
def Csv.save (csv : Csv) (disk : Disk) (s : Sheet) (path : String) : Saving :=
  match disk.write path "" with
  | .error fault => ⟨disk, some (.path fault)⟩
  | .ok made =>
      match csv.write s with
      | .error fault => ⟨made, some (.csv fault)⟩
      | .ok text =>
          match made.write path text with
          | .error fault => ⟨made, some (.path fault)⟩
          | .ok disk => ⟨disk, none⟩

/-- Save a sheet of a workbook in the usual form. Nothing is touched if there is
no such sheet. -/
def Workbook.saveCsv (w : Workbook) (disk : Disk) (index : Nat) (path : String) : Saving :=
  match w.sheet? index with
  | none => ⟨disk, some (.csv (.noSheet index w.count))⟩
  | some s => ({} : Csv).save disk s path

end TableBook
