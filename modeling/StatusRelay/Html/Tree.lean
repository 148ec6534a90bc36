/-
# The tree of an HTML document

Nodes are numbered in the order in which they are made, and each knows its parent and its children.
A node can be moved: text that is out of place in a table goes before it, and an element that is
closed too early is taken up again further on. So the order of the numbers is the order of the tags
in the text, while the order of the children is that of the document.

Texts that come to stand side by side are one node.
-/

import StatusRelay.Html.Lexer

namespace StatusRelay
namespace Html

/-- The vocabulary of an element. -/
inductive Vocabulary where
  | html | svg | math
  deriving DecidableEq, Repr, Inhabited

/-- What a node is. -/
inductive Kind where
  | document
  | element (vocabulary : Vocabulary) (tag : Tag)
  | text (content : List Char)
  deriving Repr, Inhabited

/-- A node by its number. -/
abbrev NodeId := Nat

/-- A node: what it is and where it stands. -/
structure Node where
  kind : Kind
  parent : Option NodeId := none
  children : List NodeId := []
  deriving Repr, Inhabited

/-- A tree of nodes. -/
structure Tree where
  nodes : Array Node := #[⟨.document, none, []⟩]
  deriving Repr, Inhabited

/-- Where a node can be put. -/
inductive Place where
  /-- Behind the children of a node. -/
  | inside (parent : NodeId)
  /-- Before a node that has a parent. -/
  | before (sibling : NodeId)
  deriving DecidableEq, Repr, Inhabited

namespace Tree

/-- The node that is made first, around the whole document. -/
def root : NodeId := 0

/-- What a node is. -/
def kind (t : Tree) (n : NodeId) : Kind := (t.nodes[n]?.map (·.kind)).getD .document

/-- The parent of a node. -/
def parent? (t : Tree) (n : NodeId) : Option NodeId := t.nodes[n]?.bind (·.parent)

/-- The children of a node. -/
def children (t : Tree) (n : NodeId) : List NodeId := (t.nodes[n]?.map (·.children)).getD []

/-- The tag of an element. -/
def tag? (t : Tree) (n : NodeId) : Option Tag :=
  match t.kind n with
  | .element _ tag => some tag
  | _ => none

/-- Whether a node is an element of a vocabulary with one of these names. -/
def isElement (t : Tree) (v : Vocabulary) (names : List String) (n : NodeId) : Bool :=
  match t.kind n with
  | .element w tag => w == v && names.contains tag.name
  | _ => false

/-- Whether a node is an element of HTML. -/
def isHtml (t : Tree) (n : NodeId) : Bool :=
  match t.kind n with
  | .element .html _ => true
  | _ => false

/-- A new node, which stands nowhere. -/
def make (t : Tree) (kind : Kind) : NodeId × Tree :=
  (t.nodes.size, ⟨t.nodes.push ⟨kind, none, []⟩⟩)

/-- Changes one node. -/
def update (t : Tree) (n : NodeId) (f : Node → Node) : Tree :=
  match t.nodes[n]? with
  | some node => ⟨t.nodes.setIfInBounds n (f node)⟩
  | none => t

/-- Takes a node from where it stands. -/
def detach (t : Tree) (n : NodeId) : Tree :=
  match t.parent? n with
  | none => t
  | some p =>
    (t.update p fun node => { node with children := node.children.erase n }).update n
      fun node => { node with parent := none }

/-- A list with an item put before another one. -/
def insertBefore (new sibling : NodeId) (ns : List NodeId) : List NodeId :=
  ns.flatMap fun n => if n = sibling then [new, n] else [n]

/-- Puts a node in a place, from wherever it stands. -/
def put (t : Tree) (place : Place) (n : NodeId) : Tree :=
  let t := t.detach n
  match place with
  | .inside p =>
    (t.update p fun node => { node with children := node.children ++ [n] }).update n
      fun node => { node with parent := some p }
  | .before s =>
    match t.parent? s with
    | none => t
    | some p =>
      (t.update p fun node => { node with children := insertBefore n s node.children }).update n
        fun node => { node with parent := some p }

/-- The node that stands just before a place. -/
def neighbour? (t : Tree) : Place → Option NodeId
  | .inside p => (t.children p).getLast?
  | .before s =>
    match t.parent? s with
    | none => none
    | some p => ((t.children p).takeWhile (· != s)).getLast?

/-- Puts text in a place, joining it to a text that stands just before. -/
def putText (t : Tree) (place : Place) (content : List Char) : Tree :=
  let joined := match t.neighbour? place with
    | none => none
    | some n =>
      match t.kind n with
      | .text before => some (n, before)
      | _ => none
  match joined with
  | some (n, before) => t.update n fun node => { node with kind := .text (before ++ content) }
  | none =>
    let (n, t) := t.make (.text content)
    t.put place n

/-- Moves all children of a node to the end of another. -/
def moveChildren (t : Tree) (source target : NodeId) : Tree :=
  (t.children source).foldl (fun t n => t.put (.inside target) n) t

/-- The text in a node and below it, in the order of the document. `fuel` is at least the number of
nodes. -/
def textAt (t : Tree) (fuel : Nat) (n : NodeId) : List Char :=
  match fuel with
  | 0 => []
  | fuel + 1 =>
    match t.kind n with
    | .text content => content
    | _ => (t.children n).flatMap (t.textAt fuel)

/-- The text in a node and below it. -/
def text (t : Tree) (n : NodeId) : List Char := t.textAt t.nodes.size n

/-- The elements with a name, in any vocabulary, that stand in the tree, in the order of their
tags. -/
def named (t : Tree) (name : String) : List NodeId :=
  (List.range t.nodes.size).filter fun n =>
    (t.parent? n).isSome && (t.tag? n).any fun tag => tag.name == name

end Tree
end Html
end StatusRelay
