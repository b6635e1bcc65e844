import TableBook.Mark
import TableBook.Style.Highlight

namespace TableBook.Directive

/-- The marks that are directives, in the order they are applied. -/
def all : List Mark :=
  [.format, .align, .verticalAlign, .wrap, .backgroundColor, .fontSize, .border, .borderColor,
    .locked, .fontColor, .fontBold, .fontItalic, .fontUnderline, .fontName, .conditional]

/-- The number a text writes, if it is above zero. -/
def readPositive (value : String) : Option Binary64 :=
  (Binary64.read (Text.trim value.toList)).filter Binary64.isPositive

/-- The fragment a directive stands for, if its value is understood. -/
def fragment? (mark : Mark) (value : String) : Option Style :=
  match mark with
  | .format => some { numberFormat := some value }
  | .align => some { alignment := { horizontal := some (.ofKeyword value) } }
  | .verticalAlign => some { alignment := { vertical := some (.ofKeyword value) } }
  | .wrap => some { alignment := { wrap := some (value == "true") } }
  | .backgroundColor => (Color.read value.toList).map fun color => { fill := some color }
  | .fontColor => (Color.read value.toList).map fun color => { font := { color := some color } }
  | .fontSize => (readPositive value).map fun size => { font := { size := some size } }
  | .border => (Line.ofKeyword? value).map fun line => { border := .all { line := some line } }
  | .borderColor =>
      (Color.read value.toList).map fun color => { border := .all { color := some color } }
  | .locked => some { locked := some (value == "true") }
  | .fontBold => some { font := { bold := some (value == "true") } }
  | .fontItalic => some { font := { italic := some (value == "true") } }
  | .fontUnderline =>
      (Underline.ofKeyword? value).map fun line => { font := { underline := some line } }
  | .fontName => if value.isEmpty then none else some { font := { name := some value } }
  | .conditional => (Highlight.read value.toList).map fun rule => { rules := [rule] }
  | _ => none

end TableBook.Directive
