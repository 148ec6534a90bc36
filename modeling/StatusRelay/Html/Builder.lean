/-
# Building a tree from tokens

The builder keeps the tree, the elements that are open, and the formatting elements that are still
in force. An element that opens or closes in the wrong place is never refused: the rules say what
is closed on its account, what is opened again, and where it goes.

* **Scope.** Whether an end tag or a start tag can reach an element depends on the elements in
  between: some of them are barriers.
* **Fostering.** While it is on, what would go into a table itself goes before the table.
* **Formatting.** Formatting elements are remembered until their end tags, and opened again where
  text follows although something has closed them. Markers separate those of a cell, a caption, an
  object or a template from those outside.
-/

import StatusRelay.Html.Tree

namespace StatusRelay
namespace Html

/-- Which rules the next token falls under. -/
inductive Mode where
  | body
  /-- Inside an element that holds text only. -/
  | text
  | table
  | tableText
  | caption
  | columnGroup
  | tableBody
  | row
  | cell
  | select
  | selectInTable
  | template
  deriving DecidableEq, Repr, Inhabited

/-- A formatting element in force: its node, and the tag to open it again. -/
structure Formatting where
  node : NodeId
  tag : Tag
  deriving DecidableEq, Repr, Inhabited

/-- What has been built. -/
structure Builder where
  tree : Tree
  mode : Mode := .body
  /-- The mode that follows text in an element or in a table. -/
  returnMode : Mode := .body
  /-- The modes of the templates that are open, innermost first. -/
  templateModes : List Mode := []
  /-- The elements that are open, innermost first. -/
  stack : List NodeId := []
  /-- The formatting elements in force, last first; nothing stands for a marker. -/
  formatting : List (Option Formatting) := []
  /-- The form that is open. -/
  form : Option NodeId := none
  /-- Text in a table that has no place yet. -/
  tableText : List Char := []
  /-- How the text that follows is read. -/
  content : Content := .normal
  /-- Whether a line feed that comes next is dropped. -/
  skipsLine : Bool := false
  /-- Whether fostering is on. -/
  fostering : Bool := false
  deriving Repr, Inhabited

/-- What becomes of a token. -/
inductive Outcome where
  | done (b : Builder)
  /-- What is left of it falls under the rules again. -/
  | again (b : Builder) (token : Token)
  deriving Inhabited

namespace Builder

/-! ### The open elements -/

/-- Whether a node is an element of HTML with one of these names. -/
def isOne (b : Builder) (names : List String) (n : NodeId) : Bool :=
  b.tree.isElement .html names n

/-- Whether the innermost element is one of HTML with one of these names. -/
def currentIs (b : Builder) (names : List String) : Bool := b.stack.head?.any (b.isOne names)

/-- Whether an element of HTML with a name is open. -/
def hasOpen (b : Builder) (name : String) : Bool := b.stack.any (b.isOne [name])

/-- Closes the innermost element. -/
def pop (b : Builder) : Builder := { b with stack := b.stack.drop 1 }

/-- Closes elements while the innermost one is as told. -/
def popWhile (b : Builder) (p : NodeId → Bool) : Builder :=
  { b with stack := b.stack.dropWhile p }

/-- Closes elements up to one with one of these names. -/
def popUntil (b : Builder) (names : List String) : Builder :=
  (b.popWhile fun n => !b.isOne names n).pop

/-- Elements whose end tag may be left out. -/
def impliedNames : List String :=
  ["dd", "dt", "li", "optgroup", "option", "p", "rb", "rp", "rt", "rtc"]

/-- Parts of tables, whose end tags may be left out at the end of a template. -/
def impliedTableNames : List String :=
  ["caption", "colgroup", "tbody", "td", "tfoot", "th", "thead", "tr"]

/-- Closes elements whose end tag may be left out, but for one name. -/
def closeImplied (b : Builder) (except : String) : Builder :=
  b.popWhile fun n => b.isOne (impliedNames.filter (· != except)) n

/-! ### Scope -/

/-- Whether an element can be reached before a barrier. -/
def reaches (target barrier : NodeId → Bool) : List NodeId → Bool
  | [] => false
  | n :: ns => target n || (!barrier n && reaches target barrier ns)

/-- The elements of HTML that are barriers. -/
def barrierNames : List String :=
  ["applet", "caption", "html", "table", "td", "th", "marquee", "object", "template"]

/-- Elements of mathematics whose text is HTML. -/
def mathTextNames : List String := ["mi", "mo", "mn", "ms", "mtext"]

/-- Elements of graphics whose content is HTML. -/
def svgHtmlNames : List String := ["foreignobject", "desc", "title"]

/-- Whether a node is a barrier. -/
def isBarrier (b : Builder) (n : NodeId) : Bool :=
  b.isOne barrierNames n || b.tree.isElement .math mathTextNames n ||
    b.tree.isElement .svg svgHtmlNames n

/-- Whether an element with one of these names is in scope. -/
def inScope (b : Builder) (names : List String) : Bool :=
  reaches (b.isOne names) b.isBarrier b.stack

/-- The same, lists being barriers too. -/
def inListScope (b : Builder) (names : List String) : Bool :=
  reaches (b.isOne names) (fun n => b.isBarrier n || b.isOne ["ol", "ul"] n) b.stack

/-- The same, buttons being barriers too. -/
def inButtonScope (b : Builder) (names : List String) : Bool :=
  reaches (b.isOne names) (fun n => b.isBarrier n || b.isOne ["button"] n) b.stack

/-- The same, tables and templates being the only barriers. -/
def inTableScope (b : Builder) (names : List String) : Bool :=
  reaches (b.isOne names) (b.isOne ["html", "table", "template"]) b.stack

/-- The same, all elements being barriers but options and their groups. -/
def inSelectScope (b : Builder) (names : List String) : Bool :=
  reaches (b.isOne names) (fun n => !b.isOne ["optgroup", "option"] n) b.stack

/-! ### Insertion -/

/-- The place before the table that is open, or in the template inside it. -/
def fosterPlace (b : Builder) : List NodeId → Place
  | [] => .inside Tree.root
  | [n] => .inside n
  | n :: m :: outer =>
    if b.isOne ["template"] n then .inside n
    else if b.isOne ["table"] n then
      if (b.tree.parent? n).isSome then .before n else .inside m
    else b.fosterPlace (m :: outer)

/-- The place for what would go into a node. -/
def placeIn (b : Builder) (target : NodeId) : Place :=
  if b.fostering && b.isOne ["table", "tbody", "tfoot", "thead", "tr"] target then
    b.fosterPlace b.stack
  else .inside target

/-- The place for what comes next. -/
def place (b : Builder) : Place := b.placeIn (b.stack.headD Tree.root)

/-- Adds text. -/
def addText (b : Builder) (content : List Char) : Builder :=
  if content.isEmpty then b else { b with tree := b.tree.putText b.place content }

/-- Opens an element. -/
def openIn (b : Builder) (v : Vocabulary) (tag : Tag) : Builder :=
  let (n, tree) := b.tree.make (.element v tag)
  { b with tree := tree.put b.place n, stack := n :: b.stack }

/-- Opens an element of HTML. -/
def openTag (b : Builder) (tag : Tag) : Builder := b.openIn .html tag

/-- Opens an element of HTML with a name and no attributes. -/
def openNamed (b : Builder) (name : String) : Builder := b.openTag { name := name }

/-- Adds an element of HTML that has no content. -/
def addVoid (b : Builder) (tag : Tag) : Builder := (b.openTag tag).pop

/-- Opens an element that holds text only. -/
def openText (b : Builder) (tag : Tag) (content : Content) : Builder :=
  { b.openTag tag with content := content, returnMode := b.mode, mode := .text }

/-! ### Formatting elements -/

/-- Separates the formatting elements that follow from those before. -/
def mark (b : Builder) : Builder := { b with formatting := none :: b.formatting }

/-- Forgets the formatting elements up to a marker. -/
def clearToMark (b : Builder) : Builder :=
  { b with formatting := (b.formatting.dropWhile Option.isSome).drop 1 }

/-- Whether two tags open alike elements. -/
def alike (s t : Tag) : Bool :=
  s.name == t.name && s.attributes.length == t.attributes.length &&
    s.attributes.all t.attributes.contains

/-- A list without the last item that is as told. -/
def dropLastOne {α : Type} (p : α → Bool) (xs : List α) : List α := (xs.reverse.eraseP p).reverse

/-- Opens a formatting element. Of four that are alike the first is forgotten. -/
def openFormatting (b : Builder) (tag : Tag) : Builder :=
  let recent := b.formatting.takeWhile Option.isSome
  let older := b.formatting.dropWhile Option.isSome
  let isAlike (f : Option Formatting) : Bool := f.any fun f => alike f.tag tag
  let recent := if 3 ≤ (recent.filter isAlike).length then dropLastOne isAlike recent else recent
  let b := b.openTag tag
  { b with formatting := some ⟨b.stack.headD Tree.root, tag⟩ :: recent ++ older }

/-- Opens the formatting elements in force again that something has closed. -/
def reconstruct (b : Builder) : Builder :=
  let isClosed (f : Option Formatting) : Bool := f.any fun f => !b.stack.contains f.node
  let reopen (state : Builder × List (Option Formatting)) (f : Option Formatting) :
      Builder × List (Option Formatting) :=
    match f with
    | none => state
    | some f =>
      let b := state.1.openTag f.tag
      (b, some ⟨b.stack.headD Tree.root, f.tag⟩ :: state.2)
  let (c, reopened) := (b.formatting.takeWhile isClosed).reverse.foldl reopen (b, [])
  { c with formatting := reopened ++ b.formatting.dropWhile isClosed }

/-- The formatting element in force with a name that comes last, after the last marker. -/
def formatting? (b : Builder) (name : String) : Option Formatting :=
  ((b.formatting.takeWhile Option.isSome).filterMap id).find? fun f => f.tag.name == name

/-- Forgets the formatting element with a node. -/
def forget (b : Builder) (n : NodeId) : Builder :=
  { b with formatting := b.formatting.filter fun f => !f.any fun f => f.node == n }

/-! ### Closing by name -/

/-- Elements of HTML that a stray end tag does not close. -/
def specialNames : List String :=
  ["address", "applet", "area", "article", "aside", "base", "basefont", "bgsound", "blockquote",
    "body", "br", "button", "caption", "center", "col", "colgroup", "dd", "details", "dir", "div",
    "dl", "dt", "embed", "fieldset", "figcaption", "figure", "footer", "form", "frame", "frameset",
    "h1", "h2", "h3", "h4", "h5", "h6", "head", "header", "hgroup", "hr", "html", "iframe", "img",
    "input", "isindex", "li", "link", "listing", "main", "marquee", "menu", "meta", "nav",
    "noembed", "noframes", "noscript", "object", "ol", "p", "param", "plaintext", "pre", "script",
    "section", "select", "source", "style", "summary", "table", "tbody", "td", "template",
    "textarea", "tfoot", "th", "thead", "title", "tr", "track", "ul", "wbr", "xmp"]

/-- Whether a node is special. -/
def isSpecial (b : Builder) (n : NodeId) : Bool :=
  b.isOne specialNames n || b.tree.isElement .math mathTextNames n ||
    b.tree.isElement .svg svgHtmlNames n

/-- Closes the paragraph that is open. -/
def closeParagraph (b : Builder) : Builder :=
  if b.inButtonScope ["p"] then (b.closeImplied "p").popUntil ["p"] else b

/-- The end tag of an element without rules of its own: it closes the innermost element of its name
unless a special one stands in between. -/
def closeByName (b : Builder) (name : String) : Builder :=
  match b.stack.find? fun n => b.isOne [name] n || b.isSpecial n with
  | some n =>
    if b.isOne [name] n then
      let c := b.closeImplied name
      { c with stack := (c.stack.dropWhile (· != n)).drop 1 }
    else b
  | none => b

/-! ### Adoption -/

/-- Where the formatting element that takes the place of another goes in the list. -/
inductive Bookmark where
  | inPlace
  | after (node : NodeId)

/-- One formatting element between the outer end and the block that it was opened around: up to
three of them are opened again around what has moved so far, the others are closed. -/
structure Move where
  builder : Builder
  /-- What has moved so far. -/
  last : NodeId
  bookmark : Bookmark
  /-- How many elements have been looked at. -/
  count : Nat

/-- Looks at one element on the way out. -/
def moveOut (block : NodeId) (m : Move) (n : NodeId) : Move :=
  let b := m.builder
  let count := m.count + 1
  let entry := (b.formatting.filterMap id).find? fun f => f.node == n
  match if count ≤ 3 then entry else none with
  | none =>
    let b := b.forget n
    { m with builder := { b with stack := b.stack.erase n }, count := count }
  | some f =>
    let (new, tree) := b.tree.make (.element .html f.tag)
    let bookmark := if m.last = block then .after new else m.bookmark
    let tree := tree.put (.inside new) m.last
    { builder := { b with
        tree := tree
        stack := b.stack.map fun k => if k = n then new else k
        formatting := b.formatting.map fun g =>
          if g.any fun g => g.node == n then some ⟨new, f.tag⟩ else g }
      last := new
      bookmark := bookmark
      count := count }

/-- The list of formatting elements with a new one in the place of an old one, or after the one
that a bookmark names. -/
def rebook (old : NodeId) (new : Formatting) (bookmark : Bookmark)
    (fs : List (Option Formatting)) : List (Option Formatting) :=
  let isOf (n : NodeId) (f : Option Formatting) : Bool := f.any fun f => f.node == n
  match bookmark with
  | .inPlace => fs.map fun f => if isOf old f then some new else f
  | .after n => (fs.flatMap fun f => if isOf n f then [some new, f] else [f]).filter
      fun f => !isOf old f

/-- One round for the end tag of a formatting element. The result tells whether there may be
another round. -/
def adoptOnce (b : Builder) (name : String) : Bool × Builder :=
  match b.formatting? name with
  | none => (false, b.closeByName name)
  | some f =>
    if !b.stack.contains f.node then (false, b.forget f.node)
    else if !reaches (· == f.node) b.isBarrier b.stack then (false, b)
    else
      let inner := b.stack.takeWhile (· != f.node)
      let outer := (b.stack.dropWhile (· != f.node)).drop 1
      match (inner.filter b.isSpecial).getLast? with
      | none =>
        let b := b.forget f.node
        (false, { b with stack := outer })
      | some block =>
        let ancestor := outer.headD Tree.root
        let between := (inner.dropWhile (· != block)).drop 1
        let m := between.foldl (moveOut block) ⟨b, block, .inPlace, 0⟩
        let b := m.builder
        let tree := b.tree.put (b.placeIn ancestor) m.last
        let (new, tree) := tree.make (.element .html f.tag)
        let tree := (tree.moveChildren block new).put (.inside block) new
        (true, { b with
          tree := tree
          formatting := rebook f.node ⟨new, f.tag⟩ m.bookmark b.formatting
          stack := (b.stack.flatMap fun k => if k = block then [new, k] else [k]).erase f.node })

/-- Up to so many rounds for the end tag of a formatting element. -/
def adoptTimes (name : String) : Nat → Builder → Builder
  | 0, b => b
  | rounds + 1, b =>
    match b.adoptOnce name with
    | (true, b) => adoptTimes name rounds b
    | (false, b) => b

/-- The end tag of a formatting element. Elements that it overlaps are split, so that each part
stands inside or outside. -/
def adopt (b : Builder) (name : String) : Builder :=
  let isPlain := b.stack.head?.any fun n =>
    b.isOne [name] n && !b.formatting.any fun f => f.any fun f => f.node == n
  if isPlain then b.pop else adoptTimes name 8 b

/-! ### Modes -/

/-- The mode that fits the open elements, innermost first. -/
def fittingMode (b : Builder) : List NodeId → Mode
  | [] | [_] => .body
  | n :: outer =>
    if b.isOne ["select"] n then
      let around := outer.takeWhile fun m => !b.isOne ["template"] m
      if around.any (b.isOne ["table"]) then .selectInTable else .select
    else if b.isOne ["td", "th"] n then .cell
    else if b.isOne ["tr"] n then .row
    else if b.isOne ["tbody", "thead", "tfoot"] n then .tableBody
    else if b.isOne ["caption"] n then .caption
    else if b.isOne ["colgroup"] n then .columnGroup
    else if b.isOne ["table"] n then .table
    else if b.isOne ["template"] n then b.templateModes.headD .body
    else b.fittingMode outer

/-- Goes to the mode that fits the open elements. -/
def resetMode (b : Builder) : Builder := { b with mode := b.fittingMode b.stack }

end Builder
end Html
end StatusRelay
