import TableBook.Number.Binary64

namespace TableBook

inductive Orientation
  | portrait
  | landscape
deriving DecidableEq, Repr

def Orientation.keyword : Orientation → String
  | .portrait => "portrait"
  | .landscape => "landscape"

def Orientation.ofKeyword? : String → Option Orientation
  | "portrait" => some .portrait
  | "landscape" => some .landscape
  | _ => none

inductive Fit
  | none
  | width
  | height
  | page
deriving DecidableEq, Repr

def Fit.keyword : Fit → String
  | .none => "none"
  | .width => "width"
  | .height => "height"
  | .page => "page"

def Fit.ofKeyword? : String → Option Fit
  | "width" => some .width
  | "height" => some .height
  | "page" => some .page
  | _ => Option.none

/-- Pages across and down, where 0 sets no limit. -/
def Fit.pages : Fit → Option (Nat × Nat)
  | .none => Option.none
  | .width => some (1, 0)
  | .height => some (0, 1)
  | .page => some (1, 1)

/-- Margins in inches. -/
structure Margins where
  top : Binary64
  right : Binary64
  bottom : Binary64
  left : Binary64
  header : Binary64
  footer : Binary64
deriving DecidableEq, Repr

namespace Margins

/-- Half an inch. -/
def usual : Binary64 := .ofRatio false 1 2

/-- Up to six margins in the order of the fields; missing ones are usual. -/
def ofList (values : List Binary64) : Margins :=
  let value (i : Nat) := values[i]?.getD usual
  ⟨value 0, value 1, value 2, value 3, value 4, value 5⟩

def toList (m : Margins) : List Binary64 :=
  [m.top, m.right, m.bottom, m.left, m.header, m.footer]

end Margins

structure Page where
  orientation : Orientation := .portrait
  fit : Fit := .none
  margins : Option Margins := Option.none
deriving DecidableEq, Repr

end TableBook
