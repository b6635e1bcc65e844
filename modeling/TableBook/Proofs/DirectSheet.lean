import TableBook.Proofs.Operation

namespace TableBook

structure DirectCell where
  value : Value := .null
  explicit : Bool := false
  link : Option Link := none
  comment : Option Comment := none
  choices : Option Choices := none
  style : Style := {}
deriving DecidableEq, Repr

namespace DirectCell

/-- What a cell holds, with a style in the place of its own. -/
def ofCell (c : Cell) (style : Style) : DirectCell :=
  ⟨c.value, c.explicit, c.link, c.comment, c.choices, style⟩

def content (c : DirectCell) : Cell :=
  { value := c.value, explicit := c.explicit, link := c.link, comment := c.comment,
    choices := c.choices }

def edit (f : Cell → Cell) (c : DirectCell) : DirectCell := ofCell (f c.content) c.style

end DirectCell

structure DirectColumn where
  width : Option Binary64 := none
  hidden : Bool := false
  autoSize : Bool := false
  style : Option Style := none
deriving DecidableEq, Repr

namespace DirectColumn

def ofColumn (c : Column) (style : Option Style) : DirectColumn :=
  ⟨c.width, c.hidden, c.autoSize, style⟩

def settings (c : DirectColumn) : Column :=
  { width := c.width, hidden := c.hidden, autoSize := c.autoSize }

def edit (f : Column → Column) (c : DirectColumn) : DirectColumn :=
  ofColumn (f c.settings) c.style

end DirectColumn

structure DirectSheet where
  name : String
  cells : Address → Option DirectCell := fun _ => none
  columns : Nat → Option DirectColumn := fun _ => none
  rows : Keyed Nat Row := ∅
  merges : List Merge := []
  drawings : List Drawing := []
  freeze : Option Address := none
  autoFilter : Option Range := none
  defaultWidth : Option Binary64 := none
  zoom : Option Nat := none
  tabColor : Option Color := none
  gridlines : Bool := true
  page : Page := {}

structure DirectAttempt where
  sheet : DirectSheet
  fault : Option SheetFault := none

namespace DirectAttempt

def ofExcept (d : DirectSheet) : Except SheetFault DirectSheet → DirectAttempt
  | .ok d => ⟨d, none⟩
  | .error fault => ⟨d, some fault⟩

def andThen (attempt : DirectAttempt) (next : DirectSheet → DirectAttempt) : DirectAttempt :=
  match attempt.fault with
  | none => next attempt.sheet
  | some _ => attempt

end DirectAttempt

namespace DirectSheet

def new (name : String) : DirectSheet := { name }

def columnStyle (d : DirectSheet) (column : Nat) : Style :=
  ((d.columns column).bind (·.style)).getD {}

/-- The style at a position: the cell's, else the column's, else the empty one. -/
def styleAt (d : DirectSheet) (a : Address) : Style :=
  match d.cells a with
  | some c => c.style
  | none => d.columnStyle a.column

def checkWritable (d : DirectSheet) (a : Address) : Except SheetFault Unit := do
  Sheet.checkRow a.row
  Sheet.checkColumn a.column
  match d.merges.find? (·.covers a) with
  | some m => .error (.coveredCell a m.range)
  | none => .ok ()

/-- Put a changed cell at a position. A new one starts from the style of its
column. -/
def setCell (d : DirectSheet) (a : Address) (f : DirectCell → DirectCell) : DirectSheet :=
  { d with cells := fun b =>
      if b = a then some (f ((d.cells a).getD { style := d.columnStyle a.column }))
      else d.cells b }

def editCell (d : DirectSheet) (a : Address) (f : DirectCell → DirectCell) :
    Except SheetFault DirectSheet := do
  d.checkWritable a
  .ok (d.setCell a f)

def styleCell (d : DirectSheet) (a : Address) (style : Style) : Except SheetFault DirectSheet :=
  d.editCell a fun c => { c with style := c.style.merge style }

def styleCells (d : DirectSheet) (style : Style) : List Address → DirectAttempt
  | [] => ⟨d, none⟩
  | a :: rest =>
      (DirectAttempt.ofExcept d (d.styleCell a style)).andThen fun d => d.styleCells style rest

def styleRange (d : DirectSheet) (range : Range) (style : Style) : DirectAttempt :=
  d.styleCells style (range.cells.filter fun a => !d.merges.any (·.covers a))

def setColumn (d : DirectSheet) (column : Nat) (f : DirectColumn → DirectColumn) : DirectSheet :=
  { d with columns := fun k =>
      if k = column then some (f ((d.columns column).getD {})) else d.columns k }

def editColumn (d : DirectSheet) (column : Nat) (f : DirectColumn → DirectColumn) :
    Except SheetFault DirectSheet := do
  Sheet.checkColumn column
  .ok (d.setColumn column f)

def styleColumn (d : DirectSheet) (column : Nat) (style : Style) : DirectAttempt :=
  .ofExcept d <| d.editColumn column fun c =>
    { c with style := some ((d.columnStyle column).merge style) }

def storedIn (d : DirectSheet) (column : Nat) : List Address :=
  ((List.range maxRows).map fun i => ⟨i + 1, column⟩).filter fun a => (d.cells a).isSome

def styleWholeColumn (d : DirectSheet) (column : Nat) (style : Style) : DirectAttempt :=
  (d.styleCells style (d.storedIn column)).andThen fun d => d.styleColumn column style

def setRowHeight (d : DirectSheet) (row : Nat) (height : Binary64) :
    Except SheetFault DirectSheet := do
  Sheet.checkRow row
  .ok { d with rows := d.rows.alter row fun r? => some { r?.getD {} with height := some height } }

def hasValue (d : DirectSheet) (a : Address) : Bool := (d.cells a).any (!·.value.isNull)

def merge (d : DirectSheet) (m : Merge) : Except SheetFault DirectSheet :=
  if maxRows < m.range.last.row then .error (.rowOutOfBounds m.range.last.row)
  else if maxColumns < m.range.last.column then .error (.columnOutOfBounds m.range.last.column)
  else
    match d.merges.find? fun other => other.range.overlaps m.range with
    | some existing => .error (.mergeConflict m.range existing.range)
    | none =>
        match m.range.cells.find? fun a => m.covers a && d.hasValue a with
        | some a => .error (.coveredCell a m.range)
        | none => .ok { d with merges := d.merges ++ [m] }

def attempt (d : DirectSheet) : Edit → DirectAttempt
  | .value a v => .ofExcept d (d.editCell a (.edit (·.withValue v)))
  | .explicitText a text =>
      .ofExcept d (d.editCell a (.edit fun c => { c with value := .text text, explicit := true }))
  | .formula a text => .ofExcept d (d.editCell a (.edit (·.withValue (.ofFormula text))))
  | .link a link => .ofExcept d (d.editCell a (.edit fun c => { c with link := some link }))
  | .comment a comment =>
      .ofExcept d (d.editCell a (.edit fun c => { c with comment := some comment }))
  | .choices a options =>
      .ofExcept d (d.editCell a (.edit fun c => { c with choices := some (.ofOptions options) }))
  | .style a style => .ofExcept d (d.styleCell a style)
  | .styleRange range style => d.styleRange range style
  | .styleColumn column style => d.styleColumn column style
  | .styleWholeColumn column style => d.styleWholeColumn column style
  | .columnWidth column width =>
      .ofExcept d (d.editColumn column fun c => { c with width := some width })
  | .columnHidden column hidden => .ofExcept d (d.editColumn column fun c => { c with hidden })
  | .columnAutoSize column autoSize =>
      .ofExcept d (d.editColumn column fun c => { c with autoSize })
  | .rowHeight row height => .ofExcept d (d.setRowHeight row height)
  | .merge m => .ofExcept d (d.merge m)
  | .drawing drawing => ⟨{ d with drawings := d.drawings ++ [drawing] }, none⟩
  | .freeze a => ⟨{ d with freeze := some a }, none⟩
  | .autoFilter range => ⟨{ d with autoFilter := some range }, none⟩
  | .defaultWidth width => ⟨{ d with defaultWidth := some width }, none⟩
  | .zoom percent => ⟨{ d with zoom := some percent }, none⟩
  | .tabColor color => ⟨{ d with tabColor := color }, none⟩
  | .gridlines shown => ⟨{ d with gridlines := shown }, none⟩
  | .rename name => ⟨{ d with name }, none⟩

def perform (d : DirectSheet) : Operation → DirectAttempt
  | .edit edit => d.attempt edit
  | .cell a f => .ofExcept d (d.editCell a (.edit f))
  | .column column f => .ofExcept d (d.editColumn column (.edit f))
  | .page f => ⟨{ d with page := f d.page }, none⟩

def after (d : DirectSheet) (operations : List Operation) : DirectSheet :=
  operations.foldl (fun d operation => (d.perform operation).sheet) d

end DirectSheet

end TableBook
