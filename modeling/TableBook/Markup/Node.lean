namespace TableBook

mutual

inductive Node
  | text (content : String)
  | element (e : Element)

structure Element where
  /-- In small letters. -/
  tag : String
  /-- In the order of the text, duplicates included. -/
  attributes : List (String × String) := []
  children : List Node := []

end

deriving instance Repr for Node, Element

instance : Inhabited Element := ⟨{ tag := "" }⟩

/-- ASCII capitals as small letters. -/
def asciiLower (s : String) : String := String.ofList (s.toList.map Char.toLower)

namespace Element

/-- An element whose tag may be written in any case. -/
def new (tag : String) (attributes : List (String × String)) (children : List Node) : Element :=
  ⟨asciiLower tag, attributes, children⟩

/-- The value of an attribute, of the first one with the name. -/
def attribute? (e : Element) (name : String) : Option String :=
  (e.attributes.find? (·.1 == name)).map (·.2)

/-- The value of an attribute unless it is empty. -/
def filled? (e : Element) (name : String) : Option String :=
  (e.attribute? name).filter (!·.isEmpty)

def has (e : Element) (name : String) : Bool := e.attributes.any (·.1 == name)

def is (e : Element) (tag : String) : Bool := e.tag == tag

end Element

def Node.elements : List Node → List Element
  | [] => []
  | .text _ :: nodes => elements nodes
  | .element e :: nodes => e :: elements nodes

def Element.childElements (e : Element) : List Element := Node.elements e.children

mutual

def Node.textContent : Node → String
  | .text content => content
  | .element e => e.textContent

def Element.textContent : Element → String
  | ⟨_, _, children⟩ => Node.textContents children

def Node.textContents : List Node → String
  | [] => ""
  | node :: nodes => node.textContent ++ Node.textContents nodes

end

mutual

def Node.find (p : Element → Bool) : Node → List Element
  | .text _ => []
  | .element e => e.find p

/-- The element and its descendants that satisfy `p`, in document order. -/
def Element.find (p : Element → Bool) : Element → List Element
  | ⟨tag, attributes, children⟩ =>
      let below := Node.findAll p children
      if p ⟨tag, attributes, children⟩ then ⟨tag, attributes, children⟩ :: below else below

/-- The elements of a forest that satisfy `p`, in document order. -/
def Node.findAll (p : Element → Bool) : List Node → List Element
  | [] => []
  | node :: nodes => node.find p ++ Node.findAll p nodes

end

end TableBook
