import TableBook.Sheet
import TableBook.SheetName
import TableBook.Table.Layout

namespace TableBook

/-- Whether an element is a table that asks for a sheet. -/
def Element.isSheetTable (e : Element) : Bool := e.is "table" && e.has Mark.sheet.name

/-- The name of the sheet as it is written. -/
def Element.sheetName (table : Element) : String :=
  (table.attribute? Mark.sheet.name).getD ""

/-- Build the sheet of a table under a name. -/
def Sheet.ofTable (context : Context) (table : Element) (taken : List String) :
    Except TableFault Sheet := do
  table.check context.options.strict
  let name := SheetName.ofAttribute table.sheetName
  let name := if context.options.dedupe then SheetName.dedupe name taken else name
  let s := (Sheet.new name).withTableSettings table
  let s ← s.withColumns context 1 table.columnElements
  let s ← s.placeRows context 1 table.tableRows
  .ok (s.withAutosize table)

namespace Workbook

/-- Add the sheets of tables, the first of which has an index. -/
def addTables (context : Context) (w : Workbook) (index : Nat) :
    List Element → Except DocumentFault Workbook
  | [] => .ok w
  | table :: rest =>
      match Sheet.ofTable context table w.names with
      | .ok s => addTables context (w.push s) (index + 1) rest
      | .error cause => .error (.table index table.sheetName cause)

def ofNodes (context : Context) (nodes : List Node) : Except DocumentFault Workbook :=
  match Node.findAll Element.isSheetTable nodes with
  | [] => .error .noTable
  | tables => addTables context {} 0 tables

end Workbook

end TableBook
