import TableBook.Disk
import TableBook.Image
import TableBook.Mark.Grammar
import TableBook.Style.Catalogue

namespace TableBook

/-- Where a cell goes whose place a region from an earlier row covers. -/
inductive MergePolicy
  /-- To the next free column, as browsers lay tables out. -/
  | skipCovered
  /-- There, which is a fault. -/
  | reject
deriving DecidableEq, Repr

structure Options where
  /-- Unknown marks and invalid values are faults. -/
  strict : Bool := true
  /-- The locale of numbers whose cell names none. -/
  locale : Option String := none
  /-- The folder for decoded images. -/
  imageFolder : Option String := none
  /-- Repeated sheet names are numbered. -/
  dedupe : Bool := false
  policy : MergePolicy := .skipCovered
deriving DecidableEq, Repr

/-- What the building of sheets looks things up in. -/
structure Context where
  catalogue : Catalogue
  options : Options
  disk : Disk

inductive TableFault
  | mark (fault : AttributeFault)
  | unknownStyle (style : UnknownStyle)
  | image (fault : ImageFault)
  | sheet (fault : SheetFault)
deriving DecidableEq, Repr

namespace TableFault

def message : TableFault → String
  | mark fault => fault.message
  | unknownStyle style => style.message
  | image fault => fault.message
  | sheet fault => "Core error: " ++ fault.message

/-- A refusal of the sheet; what concerns merged regions counts as a fault of
the marks. -/
def ofSheet : SheetFault → TableFault
  | .mergeConflict range existing => mark (.mergeConflict range existing)
  | .coveredCell cell region => mark (.coveredCell cell region)
  | fault => sheet fault

def liftSheet {α : Type} : Except SheetFault α → Except TableFault α :=
  Except.mapError ofSheet

def liftStyle {α : Type} : Except UnknownStyle α → Except TableFault α :=
  Except.mapError unknownStyle

end TableFault

inductive DocumentFault
  /-- No table asks for a sheet. -/
  | noTable
  /-- The first table that cannot be built, by its index and its name as
  written. -/
  | table (index : Nat) (name : String) (cause : TableFault)
deriving DecidableEq, Repr

def DocumentFault.message : DocumentFault → String
  | .noTable => "No <table data-xls-sheet> found in the document"
  | .table index name cause => s!"Table #{index} (sheet '" ++ name ++ "'): " ++ cause.message

/-- The messages from the fault down to its innermost cause. -/
def TableFault.chain : TableFault → List String
  | .sheet fault => [(TableFault.sheet fault).message, fault.message]
  | fault => [fault.message]

def DocumentFault.chain : DocumentFault → List String
  | .noTable => [DocumentFault.noTable.message]
  | .table index name cause => (DocumentFault.table index name cause).message :: cause.chain

end TableBook
