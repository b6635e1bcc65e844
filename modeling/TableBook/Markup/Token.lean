import TableBook.Markup.Node
import TableBook.Text.Blank
import TableBook.Text.Reference

namespace TableBook

inductive Token
  | openTag (tag : String) (attributes : List (String × String))
  | closeTag (tag : String)
  | text (content : List Char)
  | comment
deriving Repr

namespace Token

open Text

/-- Line ends as line feeds, and no byte order mark in front. -/
def normalizeLines : List Char → List Char
  | [] => []
  | '\r' :: '\n' :: cs => '\n' :: normalizeLines cs
  | '\r' :: cs => '\n' :: normalizeLines cs
  | c :: cs => c :: normalizeLines cs

/-- The blanks of markup text: tab, line feed, form feed and space. -/
def isSpace (c : Char) : Bool := c == ' ' || c == '\t' || c == '\n' || c == '\x0c'

/-- What the numbers 128 to 159 stand for in a numeric reference. -/
def latinNumbers : List Nat :=
  [0x20AC, 0x81, 0x201A, 0x0192, 0x201E, 0x2026, 0x2020, 0x2021, 0x02C6, 0x2030, 0x0160, 0x2039,
    0x0152, 0x8D, 0x017D, 0x8F, 0x90, 0x2018, 0x2019, 0x201C, 0x201D, 0x2022, 0x2013, 0x2014,
    0x02DC, 0x2122, 0x0161, 0x203A, 0x0153, 0x9D, 0x017E, 0x0178]

/-- The character of a numeric reference; a number that is none gives the
replacement character. -/
def numbered (n : Nat) : Char :=
  let n := if 0x80 ≤ n ∧ n ≤ 0x9F then latinNumbers[n - 0x80]?.getD n else n
  if n = 0 then '\uFFFD' else (scalar? n).getD '\uFFFD'

def dropSemicolon : List Char → List Char
  | ';' :: cs => cs
  | cs => cs

/-- The reference that follows an ampersand, and the text after it. -/
def reference? : List Char → Option (Char × List Char)
  | '#' :: x :: cs =>
      if x = 'x' ∨ x = 'X' then
        let digits := cs.takeWhile isHexDigit
        if digits.isEmpty then none
        else some (numbered (natOfHex digits), dropSemicolon (cs.dropWhile isHexDigit))
      else
        let digits := (x :: cs).takeWhile Char.isDigit
        if digits.isEmpty then none
        else some (numbered (natOfDigits digits), dropSemicolon ((x :: cs).dropWhile Char.isDigit))
  | cs =>
      match cs.dropWhile Char.isAlphanum with
      | ';' :: rest => (namedCharacter? (cs.takeWhile Char.isAlphanum)).map (·, rest)
      | _ => none

/-- Decode the references of a text; `fuel` bounds its length. -/
def decodeWithin : Nat → List Char → List Char
  | 0, cs => cs
  | _, [] => []
  | fuel + 1, '&' :: cs =>
      match reference? cs with
      | some (c, rest) => c :: decodeWithin fuel rest
      | none => '&' :: decodeWithin fuel cs
  | fuel + 1, c :: cs => c :: decodeWithin fuel cs

def decode (cs : List Char) : List Char := decodeWithin cs.length cs

/-- The text before and after the first occurrence of `mark`. -/
def splitAtMark (mark : List Char) : List Char → List Char × List Char
  | [] => ([], [])
  | c :: cs =>
      if mark.isPrefixOf (c :: cs) then ([], (c :: cs).drop mark.length)
      else
        let (before, after) := splitAtMark mark cs
        (c :: before, after)

/-- A name ends at a blank, a slash or the end of the tag. -/
def endsName (c : Char) : Bool := isSpace c || c == '/' || c == '>'

def lower (cs : List Char) : String := String.ofList (cs.map Char.toLower)

/-- The value of an attribute after its equals sign, and the text after it. -/
def attributeValue (cs : List Char) : List Char × List Char :=
  match cs.dropWhile isSpace with
  | '"' :: cs => splitAtMark ['"'] cs
  | '\'' :: cs => splitAtMark ['\''] cs
  | cs => (cs.takeWhile fun c => !isSpace c && c != '>', cs.dropWhile fun c => !isSpace c && c != '>')

/-- The attributes up to the end of a tag, and the text after it. There is none
if the tag does not end. Of two attributes with one name the first is kept. -/
def attributesWithin (fuel : Nat) (found : List (String × String)) (cs : List Char) :
    Option (List (String × String) × List Char) :=
  match fuel, cs.dropWhile fun c => isSpace c || c == '/' with
  | 0, _ => none
  | _, [] => none
  | _, '>' :: rest => some (found.reverse, rest)
  | fuel + 1, first :: cs =>
      let isInName (c : Char) : Bool := !endsName c && c != '='
      let name := lower (first :: cs.takeWhile isInName)
      let cs := cs.dropWhile isInName
      let (value, cs) := match cs.dropWhile isSpace with
        | '=' :: rest => attributeValue rest
        | _ => ([], cs)
      let found :=
        if found.any (·.1 == name) then found
        else (name, String.ofList (decode value)) :: found
      attributesWithin fuel found cs

/-- Elements whose content is text without tags. -/
def holdsText (tag : String) : Bool :=
  ["title", "textarea", "style", "script", "xmp", "iframe", "noembed", "noframes"].contains tag

/-- Of those, the ones whose text holds references. -/
def holdsReferences (tag : String) : Bool := ["title", "textarea"].contains tag

/-- The text up to the tag that closes `tag`, and the text from there on. -/
def textUpTo (tag : List Char) : List Char → List Char × List Char
  | [] => ([], [])
  | c :: cs =>
      let closes := c == '<' && cs.head? == some '/' &&
        ((cs.drop 1).take tag.length).map Char.toLower == tag &&
        ((cs.drop (1 + tag.length)).head?.map endsName).getD false
      if closes then ([], c :: cs)
      else
        let (content, rest) := textUpTo tag cs
        (c :: content, rest)

/-- Elements in which a line end right after the tag means nothing. -/
def skipsLineEnd (tag : String) : Bool := ["textarea", "pre", "listing"].contains tag

def dropLineEnd : List Char → List Char
  | '\n' :: cs => cs
  | cs => cs

def textToken (cs : List Char) : List Token := if cs.isEmpty then [] else [.text cs]

/-- The tokens of a text; `fuel` bounds its length. -/
def scanWithin : Nat → List Char → List Token
  | 0, _ => []
  | _, [] => []
  | fuel + 1, '<' :: '!' :: '-' :: '-' :: cs =>
      .comment :: scanWithin fuel (splitAtMark "-->".toList cs).2
  | fuel + 1, '<' :: '!' :: cs =>
      let rest := (splitAtMark ['>'] cs).2
      if (cs.take 7).map Char.toLower = "doctype".toList then scanWithin fuel rest
      else .comment :: scanWithin fuel rest
  | fuel + 1, '<' :: '?' :: cs => .comment :: scanWithin fuel (splitAtMark ['>'] cs).2
  | fuel + 1, '<' :: '/' :: c :: cs =>
      if c.isAlpha then
        let tag := lower (c :: cs.takeWhile (!endsName ·))
        match attributesWithin (cs.length + 1) [] (cs.dropWhile (!endsName ·)) with
        | some (_, rest) => .closeTag tag :: scanWithin fuel rest
        | none => []
      else if c = '>' then scanWithin fuel cs
      else .comment :: scanWithin fuel (splitAtMark ['>'] (c :: cs)).2
  | fuel + 1, c :: cs =>
      if c = '<' ∧ (cs.head?.map Char.isAlpha).getD false then
        let tag := lower (cs.takeWhile (!endsName ·))
        match attributesWithin (cs.length + 1) [] (cs.dropWhile (!endsName ·)) with
        | none => []
        | some (attributes, rest) =>
            let rest := if skipsLineEnd tag then dropLineEnd rest else rest
            if holdsText tag then
              let (content, rest) := textUpTo tag.toList rest
              let content := if holdsReferences tag then decode content else content
              .openTag tag attributes :: textToken content ++ scanWithin fuel rest
            else .openTag tag attributes :: scanWithin fuel rest
      else
        let content := c :: cs.takeWhile (· != '<')
        textToken (decode (content.filter (· != '\x00'))) ++
          scanWithin fuel (cs.dropWhile (· != '<'))

def scan (s : String) : List Token :=
  let cs := match s.toList with
    | '\uFEFF' :: cs => cs
    | cs => cs
  let cs := normalizeLines cs
  scanWithin cs.length cs

end Token

end TableBook
