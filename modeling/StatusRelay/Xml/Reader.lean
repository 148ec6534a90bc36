/-
# Reading XML

The pieces of a document become a tree. Elements that are open are kept in a stack, innermost first,
each with the nodes that stand before it in the element around it. A piece that does not fit is a
flaw, and so is the end of the document inside an element.

* The encoding is UTF-8 until the declaration names another that is known. A byte order mark of
  UTF-8 settles it. Text that is not in the encoding is a flaw.
* A reference stands for the character with a number, or for one of the five that have a name. Any
  other name stands for the reference itself.
* An attribute that cannot be read is passed over, and a value with a broken reference is taken
  literally.
* A name with a colon abbreviates the vocabulary that an attribute `xmlns:…` of the element or of
  one around it names, and a name without one belongs to the vocabulary of `xmlns`.
-/

import StatusRelay.Json.Reader
import StatusRelay.Text.Encoding
import StatusRelay.Xml
import StatusRelay.Xml.Markup

namespace StatusRelay
namespace Xml

/-! ### References -/

/-- The number that a text denotes in a base, if every character is a digit of it. -/
def number? (base : Nat) (cs : List Char) : Option Nat :=
  if cs.isEmpty then none
  else cs.foldlM (fun n c => do
    let d ← Json.hexValue? c
    if d < base then some (n * base + d) else none) 0

/-- The character that a number after `#` stands for: not the zero character. -/
def numbered? (cs : List Char) : Option Char := do
  let n ← match cs with
    | 'x' :: digits => number? 16 digits
    | digits => number? 10 digits
  if n = 0 then none else if n.isValidChar then some (Char.ofNat n) else none

/-- The character with a name. -/
def named? (name : List Char) : Option Char :=
  if name = "lt".toList then some '<'
  else if name = "gt".toList then some '>'
  else if name = "amp".toList then some '&'
  else if name = "apos".toList then some '\''
  else if name = "quot".toList then some '"'
  else none

/-- What a reference stands for in a text, unless it has a number that no character has. -/
def resolve? (reference : List Char) : Option (List Char) :=
  match reference with
  | '#' :: digits => (numbered? digits).map fun c => [c]
  | name =>
    match named? name with
    | some c => some [c]
    | none => some ('&' :: name ++ [';'])

/-- The value of an attribute with its references resolved, if all of them can be. `name` holds the
reference that is being read, last character first. -/
def unescape? (name : Option (List Char)) : List Char → Option (List Char)
  | [] => if name.isSome then none else some []
  | c :: cs =>
    match name with
    | none => if c = '&' then unescape? (some []) cs else (unescape? none cs).map (c :: ·)
    | some name =>
      if c = ';' then do
        let d ← match name.reverse with
          | '#' :: digits => numbered? digits
          | name => named? name
        return d :: (← unescape? none cs)
      else if c = '&' then none
      else unescape? (some (c :: name)) cs

/-! ### Attributes -/

/-- The attributes of a start tag, with nothing in the place of one that cannot be read. Each step
reads one of them, and `fuel` is at least the length of the text. -/
def attributes (fuel : Nat) (cs : List Char) : List (Option (List Char × List Char)) :=
  match fuel with
  | 0 => []
  | fuel + 1 =>
    match cs.dropWhile isGap with
    | [] => []
    | c :: cs =>
      let isName (c : Char) : Bool := c != '=' && !isGap c
      let name := c :: cs.takeWhile isName
      match (cs.dropWhile isName).dropWhile isGap with
      | '=' :: rest =>
        match rest.dropWhile isGap with
        | q :: rest =>
          if q = '"' ∨ q = '\'' then
            match rest.dropWhile (· != q) with
            | _ :: after => some (name, rest.takeWhile (· != q)) :: attributes fuel after
            | [] => [none]
          else none :: attributes fuel (rest.dropWhile fun c => !isGap c)
        | [] => [none]
      | [] => [none]
      | rest => none :: attributes fuel rest

/-- A text of bytes in an encoding. -/
def decode? (encoding : Text.Encoding) (bytes : List Char) : Option (List Char) :=
  encoding.decode? (bytes.map fun c => UInt8.ofNat c.toNat)

/-- The value of an attribute; one that is not text is empty. -/
def valueOf (encoding : Text.Encoding) (bytes : List Char) : List Char :=
  let text := (decode? encoding bytes).getD []
  (unescape? none text).getD text

/-- An attribute as text. -/
def attribute? (encoding : Text.Encoding) (a : List Char × List Char) : Option (String × String) :=
  (decode? encoding a.1).map fun name =>
    (String.ofList name, String.ofList (valueOf encoding a.2))

/-- The attributes of a name stand once; the first counts. -/
def distinct (attributes : List (String × String)) : List (String × String) :=
  attributes.foldl (fun kept a => if kept.any (fun b => b.1 == a.1) then kept else kept ++ [a]) []

/-! ### Vocabularies -/

/-- Abbreviations of vocabularies and their addresses, the innermost first; the empty abbreviation
is that of names without one. An empty address takes the abbreviation back. -/
abbrev Abbreviations := List (List Char × List Char)

/-- The vocabulary of all names that begin with `xml:`. -/
def xmlAddress : String := "http://" ++ "www.w3.org/XML/1998/namespace"

/-- The vocabulary of the attributes that name vocabularies. -/
def namingAddress : String := "http://" ++ "www.w3.org/2000/xmlns/"

/-- The abbreviation that an attribute declares. -/
def abbreviated? (name : List Char) : Option (List Char) :=
  if name = "xmlns".toList then some [] else "xmlns:".toList.isPrefixOf? name

/-- Whether an abbreviation may be declared for an address: the two that every document knows are
their own. -/
def isAllowed (abbreviation address : List Char) : Bool :=
  if abbreviation = [] then true
  else if abbreviation = "xml".toList then address = xmlAddress.toList
  else abbreviation != "xmlns".toList && address != xmlAddress.toList &&
    address != namingAddress.toList

/-- The abbreviations inside an element, by its attributes up to the first that cannot be read. -/
def declare? (outer : Abbreviations) : List (Option (List Char × List Char)) → Option Abbreviations
  | some (name, value) :: more =>
    match abbreviated? name with
    | none => declare? outer more
    | some abbreviation =>
      if isAllowed abbreviation value then declare? ((abbreviation, value) :: outer) more else none
  | _ => some outer

/-- The two parts of a name: the abbreviation, which may be absent, and the name proper. -/
def split (name : List Char) : Option (List Char) × List Char :=
  match name.dropWhile (· != ':') with
  | _ :: rest => (some (name.takeWhile (· != ':')), rest)
  | [] => (none, name)

/-- The vocabulary of a name. -/
def vocabulary (known : Abbreviations) (abbreviation : Option (List Char)) : Vocabulary :=
  let address := (known.find? fun entry => entry.1 == abbreviation.getD []).map (·.2)
  match abbreviation, address with
  | none, none | none, some [] => .unnamed
  | some _, none | some _, some [] =>
    if abbreviation = some "xml".toList then .named xmlAddress else .undeclared
  | _, some address => .named (String.ofList address)

/-! ### The tree -/

/-- An element that is open. -/
structure Frame where
  /-- The name in its start tag, which the end tag repeats. -/
  name : List Char
  tag : Tag
  abbreviations : Abbreviations
  /-- The nodes before the element, last first. -/
  before : List Node

/-- What has been read of a document. -/
structure State where
  encoding : Text.Encoding := .utf8
  /-- Whether the encoding is settled. -/
  settled : Bool := false
  /-- The elements that are open, innermost first. -/
  frames : List Frame := []
  /-- The nodes of the innermost element, last first. -/
  nodes : List Node := []

namespace State

/-- A node more. -/
def add (s : State) (n : Node) : State := { s with nodes := n :: s.nodes }

/-- The abbreviations inside the innermost element. -/
def abbreviations (s : State) : Abbreviations :=
  match s.frames with
  | [] => []
  | f :: _ => f.abbreviations

/-- The end of the innermost element. -/
def close (s : State) : State :=
  match s.frames with
  | [] => s
  | f :: frames =>
    { s with frames := frames, nodes := .element f.tag s.nodes.reverse :: f.before }

/-- The nodes of a document when the elements that are open end here. -/
def closeAll (nodes : List Node) : List Frame → List Node
  | [] => nodes.reverse
  | f :: frames => closeAll (.element f.tag nodes.reverse :: f.before) frames

/-- The beginning of an element, unless its tag has a flaw. -/
def open? (s : State) (content : List Char) : Option State := do
  let name := content.takeWhile fun c => !isGap c
  let items := attributes content.length (content.drop name.length)
  let abbreviations ← declare? s.abbreviations items
  let (abbreviation, proper) := split name
  let tag : Tag := {
    vocabulary := vocabulary abbreviations abbreviation
    name := String.ofList (← decode? s.encoding proper)
    attributes := distinct ((items.filterMap id).filterMap (attribute? s.encoding)) }
  return { s with frames := ⟨name, tag, abbreviations, s.nodes⟩ :: s.frames, nodes := [] }

/-- The declaration of an encoding, which counts unless the encoding is settled. -/
def declare (s : State) (content : List Char) : State :=
  let named := (attributes content.length content).filterMap id
  match named.find? fun a => a.1 == "encoding".toList with
  | some (_, name) =>
    match if s.settled then none else Text.Encoding.ofName? name with
    | some encoding => { s with encoding := encoding, settled := true }
    | none => s
  | none => s

/-- What a piece adds, unless it is a flaw. -/
def read? (s : State) : Piece → Option State
  | .declaration content => some (s.declare content)
  | .opening content isEmpty =>
    (s.open? content).map fun s => if isEmpty then s.close else s
  | .closing name =>
    match s.frames with
    | [] => none
    | f :: _ => if f.name = name then some s.close else none
  | .text content => (decode? s.encoding content).map fun text => s.add (.text text)
  | .reference name => do
    let name ← decode? s.encoding name
    return s.add (.text (← resolve? name))
  | .flaw => none

/-- The nodes of a document, by its pieces. -/
def finish (s : State) : List Piece → List Node
  | [] => closeAll (if s.frames.isEmpty then s.nodes else .flaw :: s.nodes) s.frames
  | p :: ps =>
    match s.read? p with
    | some s => finish s ps
    | none => closeAll (.flaw :: s.nodes) s.frames

end State

/-- The nodes of a document. -/
def read (bytes : List UInt8) : List Node :=
  let chars (bs : List UInt8) : List Char := bs.map fun b => Char.ofNat b.toNat
  match bytes with
  | 0xEF :: 0xBB :: 0xBF :: rest => State.finish { settled := true } (pieces (chars rest))
  | _ => State.finish {} (pieces (chars bytes))

end Xml
end StatusRelay
