namespace TableBook

inductive Mark
  | sheet | freeze | autosize | autofilter | defaultColumnWidth | zoom
  | printOrientation | printFit | pageMargins | tabColor | gridlines
  | width | hidden | namedStyle
  | height
  | format | align | verticalAlign | wrap | columnSpan | rowSpan | formula
  | hyperlink | link | linkTooltip
  | comment | commentAuthor | commentWidth | commentHeight | commentVisible
  | choices | valueType | numberLocale
  | image | imageWidth | imageHeight
  | backgroundColor | fontSize | border | borderColor | locked
  | fontColor | fontBold | fontItalic | fontUnderline | fontName
  | conditional
deriving DecidableEq, Repr

namespace Mark

/-- What every mark's name starts with. -/
def marker : String := "data-xls-"

/-- All marks, those of tables, columns, rows and cells in this order. -/
def all : List Mark :=
  [sheet, freeze, autosize, autofilter, defaultColumnWidth, zoom,
    printOrientation, printFit, pageMargins, tabColor, gridlines,
    width, hidden, namedStyle,
    height,
    format, align, verticalAlign, wrap, columnSpan, rowSpan, formula,
    hyperlink, link, linkTooltip,
    comment, commentAuthor, commentWidth, commentHeight, commentVisible,
    choices, valueType, numberLocale,
    image, imageWidth, imageHeight,
    backgroundColor, fontSize, border, borderColor, locked,
    fontColor, fontBold, fontItalic, fontUnderline, fontName,
    conditional]

/-- The name after the marker. -/
def shortName : Mark → String
  | sheet => "sheet"
  | freeze => "freeze"
  | autosize => "autosize"
  | autofilter => "autofilter"
  | defaultColumnWidth => "default-col-width"
  | zoom => "zoom"
  | printOrientation => "print-orientation"
  | printFit => "print-fit"
  | pageMargins => "page-margins"
  | tabColor => "tab-color"
  | gridlines => "gridlines"
  | width => "width"
  | hidden => "hidden"
  | namedStyle => "apply"
  | height => "height"
  | format => "format"
  | align => "align"
  | verticalAlign => "valign"
  | wrap => "wrap"
  | columnSpan => "colspan"
  | rowSpan => "rowspan"
  | formula => "formula"
  | hyperlink => "hyperlink"
  | link => "link"
  | linkTooltip => "link-tooltip"
  | comment => "comment"
  | commentAuthor => "comment-author"
  | commentWidth => "comment-width"
  | commentHeight => "comment-height"
  | commentVisible => "comment-visible"
  | choices => "dv-list"
  | valueType => "type"
  | numberLocale => "number-locale"
  | image => "image"
  | imageWidth => "img-width"
  | imageHeight => "img-height"
  | backgroundColor => "bg-color"
  | fontSize => "font-size"
  | border => "border"
  | borderColor => "border-color"
  | locked => "locked"
  | fontColor => "font-color"
  | fontBold => "font-bold"
  | fontItalic => "font-italic"
  | fontUnderline => "font-underline"
  | fontName => "font-name"
  | conditional => "conditional"

def name (a : Mark) : String := marker ++ a.shortName

def ofName? (name : String) : Option Mark := all.find? (·.name == name)

/-- Whether a name lies in the namespace of marks, known or not. -/
def isName (name : String) : Bool := marker.toList.isPrefixOf name.toList

theorem ofName?_name (a : Mark) : ofName? a.name = some a := by
  cases a <;> decide +kernel

end Mark

end TableBook
