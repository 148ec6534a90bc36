/-
# Feeds in XML

There are three families of feeds in XML, told apart by the name of the outermost element.

| outermost element | family | entries |
| --- | --- | --- |
| `feed` | Atom | its children `entry` |
| `entry` | Atom | itself |
| `rss`, version 2.0 | RSS 2 | the children `item` of its first `channel` |
| `rss`, version 0.91 or 0.92 | RSS 0 | the same, without identifiers |
| `RDF` | RSS 1 | without identifiers |

An element that the document puts in no vocabulary belongs to the family's own, and one of another
vocabulary says nothing. Where a name comes twice in an entry the last one counts. The document is
gone through in order, up to the end of the element that holds the entries, and the first fault
decides: a type that is not known, or the document being not well formed.
-/

import StatusRelay.Feed.Entry
import StatusRelay.Feed.Moment
import StatusRelay.Xml

namespace StatusRelay
namespace Feed

open StatusRelay.Xml (Node Tag)

/-- The vocabularies that feeds use. -/
inductive Family where
  | atom | rss | content | dublinCore | other
  deriving DecidableEq, Repr

namespace Family

/-- The vocabularies by their addresses on the web. -/
def addresses : List (String × Family) :=
  [("www.w3.org/2005/Atom", .atom), ("purl.org/rss/1.0/", .rss),
    ("purl.org/rss/1.0/modules/content/", .content), ("purl.org/dc/elements/1.1/", .dublinCore)]

/-- The vocabulary with an address. -/
def ofAddress (address : String) : Family :=
  ((addresses.find? fun entry => "http://" ++ entry.1 == address).map (·.2)).getD .other

/-- The vocabulary of an element, in a feed of a family. -/
def ofTag (own : Family) (tag : Tag) : Family :=
  match tag.vocabulary with
  | .unnamed => own
  | .named address => ofAddress address
  | .undeclared => .other

end Family

/-! ### Going through a document -/

/-- Goes through a list of nodes, up to the first fault. What an element gives is taken before
what is inside is known to be well formed. -/
def walk {α : Type} (step : α → Tag → List Node → Except Fault α) (start : α) (ns : List Node) :
    Except Fault α :=
  ns.foldlM (fun a n =>
    match n with
    | .text _ => .ok a
    | .flaw => .error .markup
    | .element tag children => do
      let a ← step a tag children
      if Node.areSound children then return a else .error .markup) start

/-- What an element gives, if all in it is well formed. -/
def whole {α : Type} (children : List Node) (given : Except Fault α) : Except Fault α :=
  if Node.areSound children then given else .error .markup

/-- The text that an element begins with. -/
def plainText (children : List Node) : List Char := Node.leadingText children

/-- All that stands in an element as markup, without the blanks around it. -/
def markupText (children : List Node) : List Char := Text.trim (Node.writeAll children)

/-- The moment that an element holds. -/
def moment (children : List Node) : Option Timestamp := readMoment (plainText children)

/-! ### Atom -/

/-- The types of texts in Atom. -/
def textTypes : List String := ["text", "html", "xhtml", "text/html"]

/-- A text in Atom, whose type must be known. -/
def atomText (tag : Tag) (children : List Node) : Except Fault (List Char) :=
  let type := (tag.attribute? "type").getD "text"
  if textTypes.contains type then whole children (.ok (markupText children))
  else .error (.unsupported type)

/-- Whether a type has two parts that can be told apart. -/
def isMediaType (type : String) : Bool :=
  let isToken (cs : List Char) : Bool :=
    !cs.isEmpty && cs.all fun c => c.isAlphanum || ['!', '#', '$', '%', '&', '\'', '*', '+', '-',
      '.', '^', '_', '\x60', '|', '~'].contains c
  let essence := type.toList.takeWhile (· != ';')
  match essence.dropWhile (· != '/') with
  | _ :: sub => isToken (essence.takeWhile (· != '/')) && isToken (Text.trimRight sub)
  | [] => false

/-- A text of a type that is no text type of Atom's own. -/
def typed (type : String) (text : List Char) : Except Fault (Option (List Char)) :=
  if isMediaType type then .ok (some text) else .error (.unsupported type)

/-- The content of an entry in Atom: a text, or a reference to one elsewhere. -/
def atomContent (tag : Tag) (children : List Node) : Except Fault (Option (List Char)) :=
  let type := (tag.attribute? "type").getD "text"
  let text := plainText children
  let endsIn (mark : String) : Bool := mark.toList.isSuffixOf type.toList
  if (tag.attribute? "src").isSome then
    whole children <|
      if text.isEmpty then .ok none else .error (.missing "non-empty atom:content with src")
  else if textTypes.contains type then (atomText tag children).map some
  else if endsIn " +xml" ∨ endsIn " /xml" then whole children (typed type (markupText children))
  else if "text".toList.isPrefixOf type.toList then
    whole children <|
      if text.isEmpty then .error (.missing "content.inline") else typed type text
  else .error (.unsupported type)

/-- Takes one element of an entry in Atom. -/
def atomField (e : Entry) (tag : Tag) (children : List Node) : Except Fault Entry :=
  if Family.ofTag .atom tag ≠ .atom then .ok e
  else match tag.name with
    | "id" => .ok { e with id := plainText children }
    | "title" => do return { e with title := some (← atomText tag children) }
    | "summary" => do return { e with summary := some (← atomText tag children) }
    | "content" => do return { e with content := ← atomContent tag children }
    | "rights" => do
      let _ ← atomText tag children
      return e
    | "updated" => .ok { e with updated := moment children }
    | "published" | "pubDate" => .ok { e with published := moment children }
    | _ => .ok e

/-- An entry in Atom. -/
def atomEntry (children : List Node) : Except Fault Entry := walk atomField {} children

/-- The entries of a feed in Atom. -/
def atomFeed (children : List Node) : Except Fault (List Entry) := do
  let entries ← walk (fun found tag children =>
    if Family.ofTag .atom tag ≠ .atom then .ok found
    else if tag.name = "entry" then do return (← atomEntry children) :: found
    else if ["title", "subtitle", "rights"].contains tag.name then do
      let _ ← atomText tag children
      return found
    else .ok found) [] children
  return entries.reverse

/-! ### RSS -/

/-- Takes one element of an item in RSS 2. -/
def rssField (e : Entry) (tag : Tag) (children : List Node) : Except Fault Entry :=
  match Family.ofTag .rss tag, tag.name with
  | .rss, "guid" => .ok { e with id := plainText children }
  | .rss, "title" => .ok { e with title := some (markupText children) }
  | .rss, "description" => .ok { e with summary := some (markupText children) }
  | .content, "encoded" => .ok { e with content := some (markupText children) }
  | .rss, "pubDate" | .dublinCore, "date" => .ok { e with published := moment children }
  | _, _ => .ok e

/-- The items of a channel, with their identifiers or without. -/
def rssChannel (hasIds : Bool) (children : List Node) : Except Fault (List Entry) := do
  let items ← walk (fun found tag children =>
    if Family.ofTag .rss tag = .rss ∧ tag.name = "item" then do
      let e ← walk rssField {} children
      return (if hasIds then e else { e with id := [] }) :: found
    else .ok found) [] children
  return items.reverse

/-- The first channel of a feed, as far as the document is well formed up to it. -/
def rssFeed (hasIds : Bool) : List Node → Except Fault (List Entry)
  | [] => .error .noRoot
  | .text _ :: ns => rssFeed hasIds ns
  | .flaw :: _ => .error .markup
  | .element tag children :: ns =>
    if tag.name = "channel" then rssChannel hasIds children
    else if Node.areSound children then rssFeed hasIds ns
    else .error .markup

/-! ### The document -/

/-- The entries of a document. -/
def readXml : List Node → Except Fault (List Entry)
  | [] | .flaw :: _ => .error .noRoot
  | .text _ :: ns => readXml ns
  | .element tag children :: _ =>
    match tag.name, tag.attribute? "version" with
    | "feed", _ => atomFeed children
    | "entry", _ => do return [← atomEntry children]
    | "rss", some "2.0" => rssFeed true children
    | "rss", some "0.91" | "rss", some "0.92" => rssFeed false children
    | "RDF", _ => if Node.areSound children then .ok [] else .error .markup
    | _, _ => .error .noRoot

end Feed
end StatusRelay
