import TableBook.Sheet
import TableBook.Table.Attributes
import TableBook.Table.Context

namespace TableBook

namespace Sheet

/-- Take a setting over if the mark is there and understood. -/
def withSetting {α : Type} (s : Sheet) (value : Option String) (read : String → Option α)
    (set : Sheet → α → Sheet) : Sheet :=
  match value.bind read with
  | some setting => set s setting
  | none => s

def withTableSettings (s : Sheet) (table : Element) : Sheet :=
  let s := s.withSetting (table.mark? .freeze) Reader.address
    fun s a => { s with freeze := some a }
  let s := s.withSetting (table.mark? .autofilter) Reader.range
    fun s r => { s with autoFilter := some r }
  let s := s.withSetting (table.mark? .defaultColumnWidth) Directive.readPositive
    fun s w => { s with defaultWidth := some w }
  let s := s.withSetting (table.mark? .zoom) Reader.zoom
    fun s z => { s with zoom := some z }
  let s := s.withSetting (table.mark? .printOrientation) (some ∘ Reader.orientation)
    fun s o => { s with page := { s.page with orientation := o } }
  let s := s.withSetting (table.mark? .printFit) Fit.ofKeyword?
    fun s f => { s with page := { s.page with fit := f } }
  let s := s.withSetting (table.mark? .pageMargins) (some ∘ Reader.margins)
    fun s m => { s with page := { s.page with margins := some m } }
  let s := s.withSetting (table.mark? .tabColor) (fun value => Color.read value.toList)
    fun s c => { s with tabColor := some c }
  s.withSetting (table.mark? .gridlines) (fun value => some (value == "on"))
    fun s shown => { s with gridlines := shown }

/-- Set a column up from the element that describes it. -/
def withColumn (context : Context) (s : Sheet) (column : Nat) (e : Element) :
    Except TableFault Sheet := do
  e.check context.options.strict
  let s ← match (e.mark? .width).bind Directive.readPositive with
    | some width =>
        TableFault.liftSheet (s.editColumn column fun c => { c with width := some width })
    | none => .ok s
  let s ←
    if e.attribute? Mark.hidden.name = some "true" then
      TableFault.liftSheet (s.editColumn column fun c => { c with hidden := true })
    else .ok s
  match e.mark? .namedStyle with
  | some name => do
      let style ← TableFault.liftStyle (context.catalogue.named name)
      TableFault.liftSheet (s.styleWholeColumn column style).toExcept
  | none => .ok s

/-- Set columns up from `column` on. -/
def withColumns (context : Context) (s : Sheet) (column : Nat) :
    List Element → Except TableFault Sheet
  | [] => .ok s
  | e :: rest => do
      let s ← s.withColumn context column e
      s.withColumns context (column + 1) rest

end Sheet

/-- The column elements of a table, over all its groups. -/
def Element.columnElements (table : Element) : List Element :=
  (table.childElements.filter (·.is "colgroup")).flatMap fun group =>
    group.childElements.filter (·.is "col")

end TableBook
