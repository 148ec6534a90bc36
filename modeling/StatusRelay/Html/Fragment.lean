/-
# Reading a fragment of HTML

A fragment is read as the content of a body. Tokens are taken from the text one after the other,
because how the text that follows is read depends on the elements that are open; each is worked
into the tree by the rules of the mode, or by those for other vocabularies.

Nothing is refused. An element of another vocabulary is left when the start tag of a well-known
element of HTML comes.
-/

import StatusRelay.Html.Table

namespace StatusRelay
namespace Html
namespace Builder

/-! ### Other vocabularies -/

/-- Elements of HTML whose start tags leave other vocabularies. -/
def leavingNames : List String :=
  ["b", "big", "blockquote", "body", "br", "center", "code", "dd", "div", "dl", "dt", "em", "embed",
    "h1", "h2", "h3", "h4", "h5", "h6", "head", "hr", "i", "img", "li", "listing", "menu", "meta",
    "nobr", "ol", "p", "pre", "ruby", "s", "small", "span", "strong", "strike", "sub", "sup",
    "table", "tt", "u", "ul", "var"]

/-- Whether a start tag leaves other vocabularies. -/
def leaves (tag : Tag) : Bool :=
  leavingNames.contains tag.name ||
    (tag.name == "font" &&
      ["color", "face", "size"].any fun name => (tag.attribute? name).isSome)

/-- Whether a token falls under the rules for other vocabularies. -/
def isForeign (b : Builder) (t : Token) : Bool :=
  match b.stack.head? with
  | none => false
  | some n =>
    if b.tree.isHtml n then false
    else
      let isHtmlInside := b.tree.isElement .svg svgHtmlNames n
      let isTextInside := b.tree.isElement .math mathTextNames n
      match t with
      | .finish => false
      | .text _ => !isHtmlInside && !isTextInside
      | .opening tag =>
        !isHtmlInside && !(isTextInside && !(["mglyph", "malignmark"].contains tag.name)) &&
          !(tag.name == "svg" && b.tree.isElement .math ["annotation-xml"] n)
      | .closing _ => true

/-- Closes elements down to one whose content is HTML. -/
def backToHtml (b : Builder) : Builder :=
  b.popWhile fun n => !(b.tree.isHtml n || b.tree.isElement .math mathTextNames n ||
    b.tree.isElement .svg svgHtmlNames n)

/-- A token by the rules of the mode. -/
def htmlToken (b : Builder) (t : Token) : Outcome :=
  match b.mode with
  | .body =>
    match t with
    | .finish => if b.templateModes.isEmpty then .done b else b.templateToken t
    | _ => .done (b.bodyToken t)
  | .text => b.textToken t
  | .table => b.tableToken t
  | .tableText => b.tableTextToken t
  | .caption => b.captionToken t
  | .columnGroup => b.columnToken t
  | .tableBody => b.groupToken t
  | .row => b.rowToken t
  | .cell => b.cellToken t
  | .select => b.selectToken t
  | .selectInTable => b.selectInTableToken t
  | .template => b.templateToken t

/-- Whether an end tag closes an element of another vocabulary before one of HTML is met; then the
elements that are left open. `isFirst` holds for the innermost. -/
def foreignEnd? (b : Builder) (name : String) (isFirst : Bool) : List NodeId → Option (List NodeId)
  | [] | [_] => some b.stack
  | n :: outer =>
    if !isFirst && b.tree.isHtml n then none
    else if (b.tree.tag? n).any fun tag => tag.name == name then some outer
    else b.foreignEnd? name false outer

/-- A token by the rules for other vocabularies. -/
def foreignToken (b : Builder) (t : Token) : Outcome :=
  match t with
  | .text content =>
    .done (b.addText (content.map fun c => if c.toNat = 0 then replacement else c))
  | .opening tag =>
    if leaves tag then b.backToHtml.htmlToken t
    else
      let v := match b.stack.head?.map b.tree.kind with
        | some (.element v _) => v
        | _ => .html
      .done (b.openForeign v tag)
  | .closing tag =>
    if tag.name = "br" ∨ tag.name = "p" then b.backToHtml.htmlToken t
    else
      match b.foreignEnd? tag.name true b.stack with
      | some stack => .done { b with stack := stack }
      | none => b.htmlToken t
  | .finish => .done b

/-! ### The loop -/

/-- Works a token into the tree. Each time that it is done again an element has been closed or a
missing one opened, so `fuel` need not be more than a few times the number of open elements. -/
def work (fuel : Nat) (b : Builder) (t : Token) : Builder :=
  match fuel with
  | 0 => b
  | fuel + 1 =>
    match if b.isForeign t then b.foreignToken t else b.htmlToken t with
    | .done b => b
    | .again b t => b.work fuel t

/-- Works a token into the tree, less a line feed that is to be dropped. -/
def take (b : Builder) (t : Token) : Builder :=
  let fuel := 4 * b.stack.length + 16
  match b.skipsLine, t with
  | true, .text ('\n' :: []) => { b with skipsLine := false }
  | true, .text ('\n' :: rest) => { b with skipsLine := false }.work fuel (.text rest)
  | _, t => { b with skipsLine := false }.work fuel t

/-- Works the tokens of a text into the tree. Each takes a character at least, so `fuel` need not be
more than the length of the text. -/
def read (fuel : Nat) (b : Builder) (cs : List Char) : Builder :=
  match fuel, cs with
  | fuel + 1, c :: cs =>
    let inForeign := b.stack.head?.any fun n => !b.tree.isHtml n
    let (t, rest) := next b.content inForeign c cs
    match t with
    | some t => (b.take t).read fuel rest
    | none => b.read fuel rest
  | _, _ => b.take .finish

/-- The builder of a fragment before its first token: one element is open around everything. -/
def start : Builder :=
  let (n, tree) := ({} : Tree).make (.element .html { name := "html" })
  { tree := tree.put (.inside Tree.root) n, stack := [n] }

end Builder

/-- The tree of a fragment. -/
def fragment (text : List Char) : Tree :=
  let cs := unifyLines text
  (Builder.start.read cs.length cs).tree

/-- The texts of the list items of a fragment, in the order of their tags. -/
def listItems (text : List Char) : List (List Char) :=
  let t := fragment text
  (t.named "li").map t.text

end Html
end StatusRelay
