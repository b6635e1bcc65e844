import TableBook.Json
import TableBook.Style.Catalogue

namespace TableBook

/-- A keyword with a capital. -/
def Json.ofKeyword (keyword : String) : Json := .string keyword.capitalize

def Color.json (color : Color) : Json := .string color.hex

def Font.json (font : Font) : Json :=
  .record [
    ("name", .ofOption .string font.name),
    ("size", .ofOption .number font.size),
    ("bold", .ofOption .boolean font.bold),
    ("italic", .ofOption .boolean font.italic),
    ("underline", .ofOption (.ofKeyword <| Underline.keyword ·) font.underline),
    ("color", .ofOption Color.json font.color)]

def Edge.json (edge : Edge) : Json :=
  .record [
    ("style", .ofOption (.ofKeyword <| Line.keyword ·) edge.line),
    ("color", .ofOption Color.json edge.color)]

def Border.json (border : Border) : Json :=
  .record [
    ("left", .ofOption Edge.json border.left),
    ("right", .ofOption Edge.json border.right),
    ("top", .ofOption Edge.json border.top),
    ("bottom", .ofOption Edge.json border.bottom)]

def Alignment.json (alignment : Alignment) : Json :=
  .record [
    ("horizontal", .ofOption (.ofKeyword <| Horizontal.keyword ·) alignment.horizontal),
    ("vertical", .ofOption (.ofKeyword <| Vertical.keyword ·) alignment.vertical),
    ("wrap_text", .ofOption .boolean alignment.wrap)]

mutual

def Style.json : Style → Json
  | ⟨font, fill, border, alignment, numberFormat, locked, rules⟩ =>
      .record [
        ("font", font.json),
        ("fill", .record [("color", .ofOption Color.json fill)]),
        ("border", border.json),
        ("alignment", alignment.json),
        ("number_format", .ofOption .string numberFormat),
        ("locked", .ofOption .boolean locked),
        ("conditionals", .list (Style.ruleJsons rules))]

def Style.ruleJsons : List (Condition × Style) → List Json
  | [] => []
  | (condition, style) :: rules =>
      .record [
        ("operator", .ofKeyword condition.keyword),
        ("value1", .number condition.first),
        ("value2", .ofOption .number condition.second?),
        ("format", style.json)] :: Style.ruleJsons rules

end

def Catalogue.json (catalogue : Catalogue) : Json :=
  .record (catalogue.entries.map fun (name, style) => (name, style.json))

end TableBook
