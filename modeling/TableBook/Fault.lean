import TableBook.Merge

namespace TableBook

/-- What is wrong with the text of an address. -/
inductive AddressFault
  | empty
  | noLetters (text : String)
  | noRow (text : String)
  | invalidRow (text : String)
  | rowZero (text : String)
  | emptyLetters
  | invalidLetter (letter : Char)
deriving DecidableEq, Repr

def AddressFault.message : AddressFault → String
  | .empty => "empty address"
  | .noLetters text => "no column letters in '" ++ text ++ "'"
  | .noRow text => "no row number in '" ++ text ++ "'"
  | .invalidRow text => "invalid row number in '" ++ text ++ "'"
  | .rowZero text => "row number must be >= 1 in '" ++ text ++ "'"
  | .emptyLetters => "empty column letters"
  | .invalidLetter letter => "invalid column letter '" ++ letter.toString ++ "'"

inductive SheetFault
  | invalidAddress (fault : AddressFault)
  | invalidRange (text : String)
  | rowOutOfBounds (row : Nat)
  | columnOutOfBounds (column : Nat)
  /-- A merge would share a cell with one that is there. -/
  | mergeConflict (range existing : Range)
  /-- A cell lies inside a merged region and is not its anchor. -/
  | coveredCell (cell : Address) (region : Range)
deriving DecidableEq, Repr

def SheetFault.message : SheetFault → String
  | .invalidAddress fault => "Invalid cell address: " ++ fault.message
  | .invalidRange text => "Invalid cell range: " ++ text
  | .rowOutOfBounds row => s!"Row index {row} out of bounds (max: {maxRows})"
  | .columnOutOfBounds column => s!"Column index {column} out of bounds (max: {maxColumns})"
  | .mergeConflict range existing =>
      "Merge " ++ range.text ++ " conflicts with " ++ existing.text
  | .coveredCell cell region =>
      "Cell " ++ cell.text ++ " is covered by merged region " ++ region.text

end TableBook
