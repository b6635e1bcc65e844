import TableBook.Markup.Token

/-!
The tree of a document. Tags that may be left out are put in: the root element
with its head and body, table sections, and the ends of cells, rows and
paragraphs.
-/

namespace TableBook

/-- An element that is still open. Its children are in reverse, and nothing
stands for a comment between two texts. -/
structure OpenElement where
  tag : String
  attributes : List (String × String) := []
  children : List (Option Node) := []

def OpenElement.close (e : OpenElement) : Node :=
  .element ⟨e.tag, e.attributes, (e.children.filterMap id).reverse⟩

def OpenElement.add (e : OpenElement) (child : Option Node) : OpenElement :=
  { e with children := child :: e.children }

/-- A text that follows another one continues it. -/
def OpenElement.addText (e : OpenElement) (content : List Char) : OpenElement :=
  match e.children with
  | some (.text before) :: children =>
      { e with children := some (.text (before ++ String.ofList content)) :: children }
  | children => { e with children := some (.text (String.ofList content)) :: children }

/-- How far the document has come. -/
inductive Phase
  | start
  | inRoot
  | inHead
  | afterHead
  | inBody
deriving DecidableEq, Repr

/-- The document so far: its open elements, the innermost first. -/
structure Draft where
  phase : Phase := .start
  stack : List OpenElement := []
  /-- The end of the body was met, and only comments and blanks since. -/
  ended : Bool := false

namespace Draft

def push (d : Draft) (tag : String) (attributes : List (String × String) := []) : Draft :=
  { d with stack := { tag, attributes } :: d.stack }

/-- Close the innermost element; the root stays open. -/
def pop (d : Draft) : Draft :=
  match d.stack with
  | inner :: outer :: rest => { d with stack := outer.add (some inner.close) :: rest }
  | _ => d

def add (d : Draft) (child : Option Node) : Draft :=
  match d.stack with
  | top :: rest => { d with stack := top.add child :: rest }
  | [] => d

def addText (d : Draft) (content : List Char) : Draft :=
  match content, d.stack with
  | _ :: _, top :: rest => { d with stack := top.addText content :: rest }
  | _, _ => d

def top (d : Draft) : String := (d.stack.head?.map (·.tag)).getD ""

/-- The open tags from the innermost to the first one of `bounds`, which
belongs. -/
def scope (bounds : List String) : List OpenElement → List String
  | [] => []
  | e :: rest => if bounds.contains e.tag then [e.tag] else e.tag :: scope bounds rest

/-- Close elements up to one of the given tags. -/
def popThrough (tags : List String) : List OpenElement → Draft → Draft
  | [], d => d
  | e :: rest, d => if tags.contains e.tag then d.pop else popThrough tags rest d.pop

/-- Close up to one of the given tags, if one is open within the bounds. -/
def closeWithin (d : Draft) (bounds tags : List String) : Draft :=
  if (scope bounds d.stack).any tags.contains then popThrough tags d.stack d else d

def tableBounds : List String := ["table", "html", "template"]

def elementBounds : List String :=
  ["td", "th", "caption", "table", "html", "body", "template", "object", "marquee", "applet"]

def paragraphBounds : List String := "button" :: elementBounds

def voidTags : List String :=
  ["area", "base", "basefont", "bgsound", "br", "col", "embed", "frame", "hr", "img", "input",
    "keygen", "link", "meta", "param", "source", "track", "wbr"]

/-- Elements that belong into the head. -/
def headTags : List String :=
  ["base", "basefont", "bgsound", "link", "meta", "title", "noframes", "style", "script"]

/-- Elements before which a paragraph ends. -/
def blockTags : List String :=
  ["address", "article", "aside", "blockquote", "center", "details", "dialog", "dir", "div", "dl",
    "fieldset", "figcaption", "figure", "footer", "form", "h1", "h2", "h3", "h4", "h5", "h6",
    "header", "hgroup", "hr", "main", "menu", "nav", "ol", "p", "pre", "section", "summary",
    "table", "ul", "li", "dd", "dt"]

def sectionTags : List String := ["tbody", "thead", "tfoot"]

def cellTags : List String := ["td", "th"]

def tablePartTags : List String :=
  ["caption", "col", "colgroup", "tbody", "td", "tfoot", "th", "thead", "tr"]

def openRoot (d : Draft) : Draft :=
  if d.phase = .start then { d.push "html" with phase := .inRoot } else d

def openHead (d : Draft) : Draft :=
  let d := d.openRoot
  if d.phase = .inRoot then { d.push "head" with phase := .inHead } else d

def closeHead (d : Draft) : Draft :=
  let d := d.openHead
  if d.phase = .inHead then { d.pop with phase := .afterHead } else d

def openBody (d : Draft) (attributes : List (String × String) := []) : Draft :=
  let d := d.closeHead
  if d.phase = .afterHead then { d.push "body" attributes with phase := .inBody } else d

def insert (d : Draft) (tag : String) (attributes : List (String × String)) : Draft :=
  if voidTags.contains tag then (d.push tag attributes).pop else d.push tag attributes

/-- Make room for a part of a table: end what may not hold it and put in the
parts between. -/
def prepareTablePart (d : Draft) (tag : String) : Draft :=
  let d := d.closeWithin tableBounds (cellTags ++ ["caption"])
  let d := if d.top = "colgroup" ∧ tag ≠ "col" then d.pop else d
  let d := if d.top = "tr" ∧ ¬ cellTags.contains tag then d.pop else d
  let d :=
    if sectionTags.contains d.top ∧ tag ≠ "tr" ∧ ¬ cellTags.contains tag then d.pop else d
  let d := if d.top = "table" ∧ tag = "col" then d.push "colgroup" else d
  let d :=
    if d.top = "table" ∧ (tag = "tr" ∨ cellTags.contains tag) then d.push "tbody" else d
  if sectionTags.contains d.top ∧ cellTags.contains tag then d.push "tr" else d

/-- Whether the innermost table, if there is one, is open. -/
def inTable (d : Draft) : Bool := (scope tableBounds d.stack).contains "table"

/-- A tag in the body that opens an element. -/
def openInBody (d : Draft) (tag : String) (attributes : List (String × String)) : Draft :=
  if tag = "html" ∨ tag = "head" ∨ tag = "body" then d
  else if tablePartTags.contains tag then
    if d.inTable then (d.prepareTablePart tag).insert tag attributes else d
  else
    let d := if d.top = "colgroup" then d.pop else d
    let d :=
      if tag = "table" ∧ ("table" :: "tr" :: sectionTags).contains d.top then
        d.closeWithin ["html", "template"] ["table"]
      else d
    let d := if blockTags.contains tag then d.closeWithin paragraphBounds ["p"] else d
    d.insert tag attributes

/-- A tag in the body that closes an element. What is open at the end of the
body stays open, as more may follow. -/
def closeInBody (d : Draft) (tag : String) : Draft :=
  if tag = "html" ∨ tag = "body" then { d with ended := true }
  else if tag = "head" ∨ tag = "col" then d
  else if tag = "br" then d.insert "br" []
  else if tag = "table" ∨ tablePartTags.contains tag then d.closeWithin tableBounds [tag]
  else if tag = "p" ∧ ¬ (scope paragraphBounds d.stack).contains "p" then (d.push "p").pop
  else d.closeWithin elementBounds [tag]

def openTag (d : Draft) (tag : String) (attributes : List (String × String)) : Draft :=
  if d.phase = .inBody then d.openInBody tag attributes
  else if tag = "html" then
    if d.phase = .start then { d.push "html" attributes with phase := .inRoot } else d
  else if tag = "head" then
    if d.phase = .start ∨ d.phase = .inRoot then
      { d.openRoot.push "head" attributes with phase := .inHead }
    else d
  else if headTags.contains tag ∧ d.phase ≠ .afterHead then d.openHead.insert tag attributes
  else if tag = "body" then d.openBody attributes
  else d.openBody.openInBody tag attributes

def closeTag (d : Draft) (tag : String) : Draft :=
  if d.phase = .inBody then d.closeInBody tag
  else if d.phase = .inHead ∧ headTags.contains tag then d.closeWithin ["head"] [tag]
  else if tag = "head" then d.closeHead
  else if tag = "html" ∨ tag = "body" then d.openBody.closeInBody tag
  else if tag = "br" then d.openBody.closeInBody tag
  else d

/-- Text. Outside the body, blanks stay where they are and all else begins the
body; before the head even blanks mean nothing. -/
def text (d : Draft) (content : List Char) : Draft :=
  if d.phase = .inBody ∨ (d.phase = .inHead ∧ d.top ≠ "head") then d.addText content
  else
    let blanks := content.takeWhile Token.isSpace
    let rest := content.dropWhile Token.isSpace
    let d := if d.phase = .inHead ∨ d.phase = .afterHead then d.addText blanks else d
    if rest.isEmpty then d else d.openBody.addText rest

/-- Take a token in. A comment after the end of the body is not part of it. -/
def token (d : Draft) : Token → Draft
  | .openTag tag attributes => { d with ended := false }.openTag tag attributes
  | .closeTag tag => { d with ended := false }.closeTag tag
  | .text content => { d with ended := d.ended && content.all Token.isSpace }.text content
  | .comment => if d.ended then d else d.add none

/-- Close all open elements and give the root. -/
def finish (d : Draft) : List Node :=
  let d := d.openBody
  let d := d.stack.foldl (fun d _ => d.pop) d
  (d.stack.map OpenElement.close)

end Draft

/-- The tree of a document: one root element with head and body. -/
def Node.ofHtml (s : String) : List Node :=
  ((Token.scan s).foldl Draft.token {}).finish

end TableBook
