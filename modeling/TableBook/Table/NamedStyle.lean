import TableBook.Sheet
import TableBook.Table.Context

namespace TableBook

/-- What an edit by the name of a style leaves, and what stopped it. -/
structure NamedAttempt where
  sheet : Sheet
  fault : Option TableFault := none

def NamedAttempt.toExcept (attempt : NamedAttempt) : Except TableFault Sheet :=
  match attempt.fault with
  | none => .ok attempt.sheet
  | some fault => .error fault

namespace Sheet

/-- Look a style up and edit the sheet with it. -/
def styleNamed (s : Sheet) (catalogue : Catalogue) (name : String)
    (edit : Style → Attempt) : NamedAttempt :=
  match catalogue.named name with
  | .ok style => ⟨(edit style).sheet, (edit style).fault.map .ofSheet⟩
  | .error unknown => ⟨s, some (.unknownStyle unknown)⟩

/-- Merge a named style on top of every cell of a range that no region covers. -/
def styleRangeNamed (s : Sheet) (catalogue : Catalogue) (range : Range) (name : String) :
    NamedAttempt :=
  s.styleNamed catalogue name (s.styleRange range)

/-- Merge a named style on top of the stored cells of a column, then of the
column. -/
def styleWholeColumnNamed (s : Sheet) (catalogue : Catalogue) (column : Nat) (name : String) :
    NamedAttempt :=
  s.styleNamed catalogue name (s.styleWholeColumn column)

end Sheet

end TableBook
