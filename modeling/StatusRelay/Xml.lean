/-
# XML documents

A document is a list of nodes: texts, and elements with nodes of their own. The name of an element
belongs to a vocabulary, which the document names by an address, or to none.

A document that is not well formed is a tree too: it ends in a flaw, which is the last node of the
innermost element that was open there, and each element around it ends with it. A reader that goes
through the tree in order meets the flaw where the document has it, after all that comes before.
-/

namespace StatusRelay
namespace Xml

/-- The vocabulary that a name belongs to. -/
inductive Vocabulary where
  /-- The document does not say. -/
  | unnamed
  | named (address : String)
  /-- The document abbreviates a vocabulary without naming it. -/
  | undeclared
  deriving DecidableEq, Repr, Inhabited

/-- What the start tag of an element says. -/
structure Tag where
  vocabulary : Vocabulary
  name : String
  attributes : List (String × String)
  deriving DecidableEq, Repr, Inhabited

namespace Tag

/-- The value of the first attribute with a name. -/
def attribute? (t : Tag) (name : String) : Option String :=
  (t.attributes.find? fun a => a.1 == name).map (·.2)

end Tag

/-- A part of a document. -/
inductive Node where
  | text (content : List Char)
  | element (tag : Tag) (children : List Node)
  /-- The document is not well formed here. -/
  | flaw
  deriving Repr, Inhabited

namespace Node

mutual

/-- Whether there is no flaw in a node. -/
def isSound : Node → Bool
  | .text _ => true
  | .element _ children => areSound children
  | .flaw => false

/-- Whether there is no flaw in a list of nodes. -/
def areSound : List Node → Bool
  | [] => true
  | n :: ns => n.isSound && areSound ns

end

/-- An attribute in writing, after a space. -/
def writeAttribute (a : String × String) : List Char :=
  ' ' :: a.1.toList ++ '=' :: '"' :: a.2.toList ++ ['"']

mutual

/-- A node in writing: the text as it is, and an element as its name without the vocabulary, its
attributes, and its content up to an end tag. -/
def write : Node → List Char
  | .text content => content
  | .element tag children =>
    '<' :: tag.name.toList ++ tag.attributes.flatMap writeAttribute ++ '>' :: writeAll children ++
      '<' :: '/' :: tag.name.toList ++ ['>']
  | .flaw => []

/-- Nodes in writing, one after the other. -/
def writeAll : List Node → List Char
  | [] => []
  | n :: ns => n.write ++ writeAll ns

end

/-- The text before the first element of a list of nodes. -/
def leadingText : List Node → List Char
  | .text content :: ns => content ++ leadingText ns
  | _ => []

end Node
end Xml
end StatusRelay
