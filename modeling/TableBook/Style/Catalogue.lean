import TableBook.Keyed
import TableBook.Style

namespace TableBook

/-- Styles by name, in the order of the names. -/
abbrev Catalogue := Keyed String Style

/-- A name without a style, and the names that have one. -/
structure UnknownStyle where
  name : String
  known : List String
deriving DecidableEq, Repr

def UnknownStyle.message (u : UnknownStyle) : String :=
  "Unknown named style '" ++ u.name ++ "'. Known styles: [" ++ ", ".intercalate u.known ++ "]"

namespace Catalogue

def named (catalogue : Catalogue) (name : String) : Except UnknownStyle Style :=
  match catalogue.get? name with
  | some style => .ok style
  | none => .error ⟨name, catalogue.keys⟩

def right : Alignment := { horizontal := some .right }

def center : Alignment := { horizontal := some .center }

/-- The number format part that writes the currency. -/
def euro : String := "[$€-fr-FR]"

def header : Style where
  font := { bold := some true, color := some (.rgb 0x33 0x33 0x33) }
  fill := some (.rgb 0xEE 0xEE 0xEE)
  border := { bottom := some { line := some .thin, color := some (.rgb 0xCC 0xCC 0xCC) } }
  alignment := { horizontal := some .center, vertical := some .center, wrap := some true }

def accountingFormat : String :=
  "_-* # ##0,00 " ++ euro ++ "_-;\\-* # ##0,00 " ++ euro ++ "_-;_-* \"-\"?? " ++ euro ++
    "_-;_-@_-"

def presets : Catalogue := Keyed.ofList [
  ("th", header),
  ("int", { alignment := right, numberFormat := some "# ##0" }),
  ("float2", { alignment := right, numberFormat := some "# ##0,00" }),
  ("float3", { alignment := right, numberFormat := some "# ##0,000" }),
  ("percent2", { alignment := right, numberFormat := some "0,00%" }),
  ("money", { alignment := right, numberFormat := some ("# ##0,00 " ++ euro) }),
  ("money_accounting", { alignment := right, numberFormat := some accountingFormat }),
  ("date", { alignment := center, numberFormat := some "dd/mm/yyyy" }),
  ("date_long", {
    alignment := { horizontal := some .left },
    numberFormat := some "[$-fr-FR]dddd d mmmm yyyy" }),
  ("time", { alignment := center, numberFormat := some "hh:mm" }),
  ("datetime", { alignment := center, numberFormat := some "dd/mm/yyyy hh:mm" }),
  ("duration", { alignment := right, numberFormat := some "[h]:mm:ss" }),
  ("bool_center", { alignment := center }),
  ("text_wrap", { alignment := { vertical := some .top, wrap := some true } }),
  ("warn", { fill := some (.rgb 0xFF 0xFF 0x99) })]

/-- Add styles on top; a later one replaces an earlier one of its name. -/
def withStyles (catalogue : Catalogue) (styles : List (String × Style)) : Catalogue :=
  styles.foldl (fun all entry => all.insert entry.1 entry.2) catalogue

end Catalogue

end TableBook
