import TableBook.Cell.Reading
import TableBook.Table.Settings

namespace TableBook

/-- The rows of a table: those of its head, bodies and foot and its own, in
document order. -/
def Element.tableRows (table : Element) : List Element :=
  table.childElements.flatMap fun child =>
    if child.is "thead" || child.is "tbody" || child.is "tfoot" then
      child.childElements.filter (·.is "tr")
    else if child.is "tr" then [child]
    else []

/-- The cells of a row. -/
def Element.rowCells (row : Element) : List Element :=
  row.childElements.filter fun e => e.is "td" || e.is "th"

def Element.columnSpan (cell : Element) : Nat := Reader.span (cell.mark? .columnSpan)

def Element.rowSpan (cell : Element) : Nat := Reader.span (cell.mark? .rowSpan)

/-- The target of a cell's link, if it has one. -/
def Element.linkTarget? (cell : Element) : Option String :=
  (cell.mark? .link).or (cell.mark? .hyperlink)

/-- The comment on a cell, if it has one. -/
def Element.comment? (cell : Element) : Option Comment :=
  (cell.mark? .comment).map fun text => {
    author := (cell.mark? .commentAuthor).getD ""
    text := text
    visible := cell.mark? .commentVisible == some "true"
    width := (cell.mark? .commentWidth).bind Directive.readPositive
    height := (cell.mark? .commentHeight).bind Directive.readPositive }

/-- The fragments of a cell's directives in the order they are applied. -/
def Element.fragments (cell : Element) : List Style :=
  Directive.all.filterMap fun a => (cell.mark? a).bind (Directive.fragment? a)

/-- The value read from the text of a cell. -/
def Element.scalar (cell : Element) (options : Options) : Scalar :=
  .ofText (Text.trimMarkup cell.textContent)
    ((cell.mark? .valueType).bind ValueType.ofKeyword?)
    ((cell.mark? .numberLocale).or options.locale)

namespace Sheet

open TableFault

/-- Give a cell its value: a formula before an image before its text. -/
def writePayload (context : Context) (s : Sheet) (cell : Element) (a : Address) :
    Except TableFault Sheet :=
  match cell.mark? .formula with
  | some formula => liftSheet (s.setFormula a formula)
  | none =>
      match cell.mark? .image with
      | some source => do
          let image ← (ImageSource.resolve context.disk source context.options.imageFolder).mapError
            TableFault.image
          let s' := s.addDrawing {
            anchor := a
            source := image
            width := (cell.mark? .imageWidth).bind Reader.leadingNumber
            height := (cell.mark? .imageHeight).bind Reader.leadingNumber }
          liftSheet (s'.setValue a (.image s.drawings.length))
      | none =>
          match cell.scalar context.options with
          | .explicitText text => liftSheet (s.setExplicitText a text)
          | scalar => liftSheet (s.setValue a scalar.value)

/-- The named style of an element, the empty one if it names none. -/
def namedStyle (context : Context) (name : Option String) : Except TableFault Style :=
  match name with
  | some name => liftStyle (context.catalogue.named name)
  | none => .ok {}

/-- The style of a cell: the row's, the cell's own, the look of a link, and the
directives. -/
def cellStyle (context : Context) (cell : Element) (rowStyle : Option String) :
    Except TableFault Style := do
  let row ← namedStyle context rowStyle
  let own ← namedStyle context (cell.mark? .namedStyle)
  let link := if (cell.mark? .link).isSome then Style.link else {}
  .ok (cell.fragments.foldl Style.merge (((({} : Style).merge row).merge own).merge link))

/-- An edit that is made only if there is something to set. -/
def editIf {α : Type} (s : Sheet) (value : Option α)
    (edit : Sheet → α → Except SheetFault Sheet) : Except TableFault Sheet :=
  match value with
  | some value => liftSheet (edit s value)
  | none => .ok s

/-- Write a cell of the table at an address. -/
def placeCell (context : Context) (s : Sheet) (cell : Element) (a : Address)
    (rowStyle : Option String) : Except TableFault Sheet := do
  cell.check context.options.strict
  let s ← s.writePayload context cell a
  let style ← cellStyle context cell rowStyle
  let s ← if style.isEmpty then .ok s else liftSheet (s.styleCell a style)
  let link := cell.linkTarget?.map fun target => Link.mk target (cell.mark? .linkTooltip)
  let s ← s.editIf link fun s link => s.setLink a link
  let s ← s.editIf cell.comment? fun s comment => s.setComment a comment
  let s ← s.editIf ((cell.mark? .choices).map Reader.options) fun s options =>
    s.setChoices a (.ofOptions options)
  let merge :=
    if 1 < cell.columnSpan ∨ 1 < cell.rowSpan then
      some (Merge.ofSpans a cell.columnSpan cell.rowSpan)
    else none
  s.editIf merge fun s merge => s.merge merge

/-- The first of `tries` columns that no region covers, or the one after. -/
def uncoveredWithin (s : Sheet) (row : Nat) : Nat → Nat → Nat
  | 0, column => column
  | tries + 1, column =>
      if (s.coveringMerge? ⟨row, column⟩).isSome then
        s.uncoveredWithin row tries (column + 1)
      else column

/-- The last column of any region. -/
def lastMergedColumn (s : Sheet) : Nat :=
  s.merges.foldl (fun column m => max column m.range.last.column) 0

/-- The first column from `column` on that no region covers. -/
def firstUncovered (s : Sheet) (row column : Nat) : Nat :=
  s.uncoveredWithin row (s.lastMergedColumn + 1 - column) column

/-- Write the cells of a row from `column` on. -/
def placeCells (context : Context) (s : Sheet) (row column : Nat) (rowStyle : Option String) :
    List Element → Except TableFault Sheet
  | [] => .ok s
  | cell :: cells => do
      let column := match context.options.policy with
        | .skipCovered => s.firstUncovered row column
        | .reject => column
      let s ← s.placeCell context cell ⟨row, column⟩ rowStyle
      let next := column + cell.columnSpan
      if next ≤ Merge.lastIndex then s.placeCells context row next rowStyle cells
      else .error (ofSheet (.columnOutOfBounds Merge.lastIndex))

def placeRow (context : Context) (s : Sheet) (row : Nat) (e : Element) :
    Except TableFault Sheet := do
  e.check context.options.strict
  let s ← s.editIf ((e.mark? .height).bind Directive.readPositive) fun s height =>
    s.setRowHeight row height
  s.placeCells context row 1 (e.mark? .namedStyle) e.rowCells

/-- Write rows from `row` on. -/
def placeRows (context : Context) (s : Sheet) (row : Nat) :
    List Element → Except TableFault Sheet
  | [] => .ok s
  | e :: rest => do
      let s ← s.placeRow context row e
      s.placeRows context (row + 1) rest

/-- Mark columns to be sized by their content; what is no column is passed
over. -/
def autosizeColumns (s : Sheet) (columns : List Nat) : Sheet :=
  columns.foldl (fun s column =>
    match s.editColumn column fun c => { c with autoSize := true } with
    | .ok s => s
    | .error _ => s) s

def withAutosize (s : Sheet) (table : Element) : Sheet :=
  match (table.mark? .autosize).bind fun value => Reader.autosize value s.grid.usedColumns with
  | some columns => s.autosizeColumns columns
  | none => s

end Sheet

end TableBook
