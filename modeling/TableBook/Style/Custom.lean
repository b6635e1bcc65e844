import TableBook.Json.Reader
import TableBook.Style.Catalogue
import TableBook.Style.Directive

namespace TableBook

inductive CustomStyleFault
  | json (message : String)
  | unknownAttribute (style attributeName : String)
  | invalidValue (style value attributeName : String)
deriving DecidableEq, Repr

def CustomStyleFault.message : CustomStyleFault → String
  | json message => message
  | unknownAttribute style attributeName =>
      "style '" ++ style ++ "': unknown attribute '" ++ attributeName ++ "'"
  | invalidValue style value attributeName =>
      "style '" ++ style ++ "': invalid value '" ++ value ++ "' for " ++ attributeName

namespace Style

/-- The style that directives give one after the other. -/
def ofDirectives (style : String) (base : Style) :
    List (String × String) → Except CustomStyleFault Style
  | [] => .ok base
  | (attributeName, value) :: rest =>
      match Mark.ofName? attributeName with
      | none => .error (.unknownAttribute style attributeName)
      | some mark =>
          match Directive.fragment? mark value with
          | none => .error (.invalidValue style value attributeName)
          | some fragment => ofDirectives style (base.merge fragment) rest

end Style

namespace Catalogue

/-- The named styles a text writes. Both names and directives are taken in
ascending order, and the last of equal ones counts. -/
def readStyles (text : String) : Except CustomStyleFault (List (String × Style)) :=
  match Json.readRecords text.toList with
  | .error fault => .error (.json (fault.message text.toList))
  | .ok records =>
      (Keyed.ofList records).entries.mapM fun (name, directives) => do
        .ok (name, ← Style.ofDirectives name {} (Keyed.ofList directives).entries)

/-- The presets with the styles of a text on top. -/
def ofText (text : String) : Except CustomStyleFault Catalogue :=
  (readStyles text).map presets.withStyles

end Catalogue

end TableBook
