import TableBook.Sheet

namespace TableBook

inductive Edit
  | value (a : Address) (v : Value)
  | explicitText (a : Address) (text : String)
  | formula (a : Address) (text : String)
  | link (a : Address) (link : Link)
  | comment (a : Address) (comment : Comment)
  | choices (a : Address) (options : List String)
  | style (a : Address) (style : Style)
  | styleRange (range : Range) (style : Style)
  | styleColumn (column : Nat) (style : Style)
  | styleWholeColumn (column : Nat) (style : Style)
  | columnWidth (column : Nat) (width : Binary64)
  | columnHidden (column : Nat) (hidden : Bool)
  | columnAutoSize (column : Nat) (autoSize : Bool)
  | rowHeight (row : Nat) (height : Binary64)
  | merge (m : Merge)
  | drawing (d : Drawing)
  | freeze (a : Address)
  | autoFilter (range : Range)
  | defaultWidth (width : Binary64)
  | zoom (percent : Nat)
  | tabColor (color : Option Color)
  | gridlines (shown : Bool)
  | rename (name : String)
deriving Repr

namespace Sheet

def attempt (s : Sheet) : Edit → Attempt
  | .value a v => .ofExcept s (s.setValue a v)
  | .explicitText a text => .ofExcept s (s.setExplicitText a text)
  | .formula a text => .ofExcept s (s.setFormula a text)
  | .link a link => .ofExcept s (s.setLink a link)
  | .comment a comment => .ofExcept s (s.setComment a comment)
  | .choices a options => .ofExcept s (s.setChoices a (.ofOptions options))
  | .style a style => .ofExcept s (s.styleCell a style)
  | .styleRange range style => s.styleRange range style
  | .styleColumn column style => s.styleColumn column style
  | .styleWholeColumn column style => s.styleWholeColumn column style
  | .columnWidth column width =>
      .ofExcept s (s.editColumn column fun c => { c with width := some width })
  | .columnHidden column hidden => .ofExcept s (s.editColumn column fun c => { c with hidden })
  | .columnAutoSize column autoSize =>
      .ofExcept s (s.editColumn column fun c => { c with autoSize })
  | .rowHeight row height => .ofExcept s (s.setRowHeight row height)
  | .merge m => .ofExcept s (s.merge m)
  | .drawing d => ⟨s.addDrawing d, none⟩
  | .freeze a => ⟨{ s with freeze := some a }, none⟩
  | .autoFilter range => ⟨{ s with autoFilter := some range }, none⟩
  | .defaultWidth width => ⟨{ s with defaultWidth := some width }, none⟩
  | .zoom percent => ⟨{ s with zoom := some percent }, none⟩
  | .tabColor color => ⟨{ s with tabColor := color }, none⟩
  | .gridlines shown => ⟨{ s with gridlines := shown }, none⟩
  | .rename name => ⟨{ s with name }, none⟩

/-- The sheet after a run of edits, whether they succeed or not. -/
def run (s : Sheet) (edits : List Edit) : Sheet :=
  edits.foldl (fun s edit => (s.attempt edit).sheet) s

end Sheet

end TableBook
