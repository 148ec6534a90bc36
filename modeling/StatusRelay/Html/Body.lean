/-
# The rules for tokens in a body

Most tokens fall under these rules, and those of the other modes fall back on them. They are given
by the name of the tag; a name that is in no list is that of an ordinary element.

| elements | what their start tags do first |
| --- | --- |
| blocks | close a paragraph |
| headings | close a paragraph and a heading just before |
| list items | close the item before, looking through `address`, `div` and `p` only |
| formatting | open again what formatting was closed |
| parts of a table, `head`, `frame` | nothing at all: out of their place they are dropped |

An end tag that reaches no element of its name is dropped, but for two: `</p>` makes an empty
paragraph and `</br>` a line break.
-/

import StatusRelay.Html.Builder

namespace StatusRelay
namespace Html
namespace Builder

/-! ### What belongs into a head -/

/-- Elements that belong into a head. -/
def headNames : List String :=
  ["base", "basefont", "bgsound", "link", "meta", "noframes", "script", "style", "template",
    "title"]

/-- The start tag of an element that belongs into a head. -/
def openHead (b : Builder) (tag : Tag) : Builder :=
  if tag.name = "title" then b.openText tag (.escapable "title")
  else if tag.name = "noframes" ∨ tag.name = "style" then b.openText tag (.raw tag.name)
  else if tag.name = "script" then b.openText tag .script
  else if tag.name = "template" then
    let b := (b.openTag tag).mark
    { b with mode := .template, templateModes := .template :: b.templateModes }
  else b.addVoid tag

/-- The end of the template that is open. -/
def endTemplate (b : Builder) : Builder :=
  let b := (b.popUntil ["template"]).clearToMark
  { b with templateModes := b.templateModes.drop 1 }.resetMode

/-- The end tag of a template. -/
def closeTemplate (b : Builder) : Builder :=
  if b.hasOpen "template" then
    (b.popWhile (b.isOne (impliedNames ++ impliedTableNames))).endTemplate
  else b

/-! ### Start tags -/

/-- Elements that stand as blocks. -/
def blockNames : List String :=
  ["address", "article", "aside", "blockquote", "center", "details", "dialog", "dir", "div", "dl",
    "fieldset", "figcaption", "figure", "footer", "header", "hgroup", "main", "menu", "nav", "ol",
    "p", "search", "section", "summary", "ul"]

/-- Headings. -/
def headingNames : List String := ["h1", "h2", "h3", "h4", "h5", "h6"]

/-- Formatting elements but for `a` and `nobr`. -/
def formattingNames : List String :=
  ["b", "big", "code", "em", "font", "i", "s", "small", "strike", "strong", "tt", "u"]

/-- Elements that separate formatting inside from outside. -/
def markedNames : List String := ["applet", "marquee", "object"]

/-- Elements without content that stand in a line. -/
def voidNames : List String := ["area", "br", "embed", "img", "input", "keygen", "wbr"]

/-- Elements whose tags are dropped in a body. -/
def displacedNames : List String :=
  ["caption", "col", "colgroup", "frame", "head", "tbody", "td", "tfoot", "th", "thead", "tr",
    "html", "body", "frameset"]

/-- The start tag of an item: it closes the item before. -/
def openItem (b : Builder) (tag : Tag) (names : List String) : Builder :=
  let isStop (n : NodeId) : Bool :=
    b.isOne names n || (b.isSpecial n && !b.isOne ["address", "div", "p"] n)
  let b := match b.stack.find? isStop with
    | some n =>
      match names.find? fun name => b.isOne [name] n with
      | some name => (b.closeImplied name).popUntil [name]
      | none => b
    | none => b
  b.closeParagraph.openTag tag

/-- The start tag of an anchor: it ends the one before. -/
def openAnchor (b : Builder) (tag : Tag) : Builder :=
  let b := match b.formatting? "a" with
    | some f =>
      let b := (b.adopt "a").forget f.node
      { b with stack := b.stack.erase f.node }
    | none => b
  b.reconstruct.openFormatting tag

/-- The start tag of an element that holds text only. -/
def openTextual (b : Builder) (tag : Tag) : Builder :=
  if tag.name = "textarea" then
    { b.openText tag (.escapable "textarea") with skipsLine := true }
  else if tag.name = "xmp" then b.closeParagraph.reconstruct.openText tag (.raw "xmp")
  else b.openText tag (.raw tag.name)

/-- The start tag of an element of another vocabulary. -/
def openForeign (b : Builder) (v : Vocabulary) (tag : Tag) : Builder :=
  let b := b.openIn v tag
  if tag.selfClosing then b.pop else b

/-- The start tag of a form: forms do not stand in each other. -/
def openForm (b : Builder) (tag : Tag) : Builder :=
  if b.form.isSome ∧ !b.hasOpen "template" then b
  else
    let b := b.closeParagraph.openTag tag
    if b.hasOpen "template" then b else { b with form := b.stack.head? }

/-- The mode for what stands in a selection. -/
def selectMode : Mode → Mode
  | .table | .caption | .tableBody | .row | .cell => .selectInTable
  | _ => .select

/-- A start tag in a body. -/
def bodyOpening (b : Builder) (tag : Tag) : Builder :=
  let name := tag.name
  if displacedNames.contains name then b
  else if headNames.contains name then b.openHead tag
  else if blockNames.contains name then b.closeParagraph.openTag tag
  else if headingNames.contains name then
    let b := b.closeParagraph
    (if b.currentIs headingNames then b.pop else b).openTag tag
  else if name = "pre" ∨ name = "listing" then
    { b.closeParagraph.openTag tag with skipsLine := true }
  else if name = "form" then b.openForm tag
  else if name = "li" then b.openItem tag ["li"]
  else if name = "dd" ∨ name = "dt" then b.openItem tag ["dd", "dt"]
  else if name = "plaintext" then { b.closeParagraph.openTag tag with content := .plain }
  else if name = "button" then
    let b := if b.inScope ["button"] then (b.closeImplied "").popUntil ["button"] else b
    b.reconstruct.openTag tag
  else if name = "a" then b.openAnchor tag
  else if formattingNames.contains name then b.reconstruct.openFormatting tag
  else if name = "nobr" then
    let b := b.reconstruct
    (if b.inScope ["nobr"] then (b.adopt "nobr").reconstruct else b).openFormatting tag
  else if markedNames.contains name then (b.reconstruct.openTag tag).mark
  else if name = "table" then { b.closeParagraph.openTag tag with mode := .table }
  else if voidNames.contains name then b.reconstruct.addVoid tag
  else if name = "image" then b.reconstruct.addVoid { tag with name := "img" }
  else if ["param", "source", "track"].contains name then b.addVoid tag
  else if name = "hr" then b.closeParagraph.addVoid tag
  else if ["textarea", "xmp", "iframe", "noembed", "noscript"].contains name then
    b.openTextual tag
  else if name = "select" then
    { b.reconstruct.openTag tag with mode := selectMode b.mode }
  else if name = "optgroup" ∨ name = "option" then
    (if b.currentIs ["option"] then b.pop else b).reconstruct.openTag tag
  else if name = "rb" ∨ name = "rtc" then
    (if b.inScope ["ruby"] then b.closeImplied "" else b).openTag tag
  else if name = "rp" ∨ name = "rt" then
    (if b.inScope ["ruby"] then b.closeImplied "rtc" else b).openTag tag
  else if name = "math" then b.reconstruct.openForeign .math tag
  else if name = "svg" then b.reconstruct.openForeign .svg tag
  else b.reconstruct.openTag tag

/-! ### End tags -/

/-- Elements whose end tags close all that is open inside them. -/
def closingNames : List String :=
  (blockNames.filter (· != "p")) ++ ["button", "listing", "pre"]

/-- The end tag of a form. -/
def closeForm (b : Builder) : Builder :=
  if b.hasOpen "template" then
    if b.inScope ["form"] then (b.closeImplied "").popUntil ["form"] else b
  else
    match b.form with
    | none => b
    | some n =>
      let b := { b with form := none }
      if reaches (· == n) b.isBarrier b.stack then
        let b := b.closeImplied ""
        { b with stack := b.stack.erase n }
      else b

/-- An end tag in a body. -/
def bodyClosing (b : Builder) (name : String) : Builder :=
  if name = "template" then b.closeTemplate
  else if name = "body" ∨ name = "html" then b
  else if closingNames.contains name then
    if b.inScope [name] then (b.closeImplied "").popUntil [name] else b
  else if name = "form" then b.closeForm
  else if name = "p" then
    (if b.inButtonScope ["p"] then b else b.openNamed "p").closeParagraph
  else if name = "li" then
    if b.inListScope ["li"] then (b.closeImplied "li").popUntil ["li"] else b
  else if name = "dd" ∨ name = "dt" then
    if b.inScope [name] then (b.closeImplied name).popUntil [name] else b
  else if headingNames.contains name then
    if b.inScope headingNames then (b.closeImplied "").popUntil headingNames else b
  else if formattingNames.contains name ∨ name = "a" ∨ name = "nobr" then b.adopt name
  else if markedNames.contains name then
    if b.inScope [name] then ((b.closeImplied "").popUntil [name]).clearToMark else b
  else if name = "br" then b.reconstruct.addVoid { name := "br" }
  else b.closeByName name

/-! ### The rules -/

/-- A token in a body. -/
def bodyToken (b : Builder) : Token → Builder
  | .opening tag => b.bodyOpening tag
  | .closing tag => b.bodyClosing tag.name
  | .text content =>
    let content := content.filter fun c => c.toNat != 0
    if content.isEmpty then b else b.reconstruct.addText content
  | .finish => b

/-- A token inside an element that holds text only. A character that cannot stand in a text is
replaced. -/
def textToken (b : Builder) : Token → Outcome
  | .text content => .done (b.addText (content.map fun c => if c.toNat = 0 then replacement else c))
  | .opening _ => .done b
  | .closing _ => .done { b.pop with mode := b.returnMode, content := .normal }
  | .finish => .again { b.pop with mode := b.returnMode, content := .normal } .finish

end Builder
end Html
end StatusRelay
