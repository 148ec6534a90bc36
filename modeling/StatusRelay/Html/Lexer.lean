/-
# The tokens of HTML

Every text is HTML: what is not a tag, a comment or a reference is text. How a stretch is read
depends on the element it stands in.

| content | tags | references | ends |
| --- | --- | --- | --- |
| normal | all | yes | |
| escapable | none | yes | at the end tag of its element |
| raw | none | no | at the end tag of its element |
| script | none | no | at `</script`, which a comment with a script inside can hide |
| plain | none | no | never |

Comments and document types say nothing about the text of a document and are dropped. A tag that
the text ends in is dropped too.
-/

import StatusRelay.Html.Entities
import StatusRelay.Json.Reader

namespace StatusRelay
namespace Html

/-- A tag: the name and the names of its attributes are in lower case. -/
structure Tag where
  name : String
  attributes : List (String × String) := []
  /-- Whether it ends in a slash. -/
  selfClosing : Bool := false
  deriving DecidableEq, Repr, Inhabited

namespace Tag

/-- The value of an attribute. -/
def attribute? (t : Tag) (name : String) : Option String :=
  (t.attributes.find? fun a => a.1 == name).map (·.2)

end Tag

/-- A token. -/
inductive Token where
  | opening (tag : Tag)
  | closing (tag : Tag)
  | text (content : List Char)
  /-- The end of the text. -/
  | finish
  deriving Repr, Inhabited

/-- How the text inside an element is read. -/
inductive Content where
  | normal
  | escapable (name : String)
  | raw (name : String)
  | script
  | plain
  deriving DecidableEq, Repr, Inhabited

/-- Whether a character is white space of markup. -/
def isGap (c : Char) : Bool := c == ' ' || c == '\t' || c == '\n' || c == '\x0c'

/-- A text in which every line ends in a line feed alone. -/
def unifyLines : List Char → List Char
  | '\r' :: '\n' :: rest => '\n' :: unifyLines rest
  | c :: rest => (if c = '\r' then '\n' else c) :: unifyLines rest
  | [] => []

/-- The mark for a character that cannot stand in a text. -/
def replacement : Char := Char.ofNat 0xFFFD

/-- A character of a name, in lower case. -/
def nameChar (c : Char) : Char := if c.toNat = 0 then replacement else c.toLower

/-! ### References -/

/-- What the numbers 80 … 9f stand for, which are controls; `0` is the control itself. -/
def replacedControls : List Nat :=
  [0x20AC, 0, 0x201A, 0x0192, 0x201E, 0x2026, 0x2020, 0x2021, 0x02C6, 0x2030, 0x0160, 0x2039,
    0x0152, 0, 0x017D, 0, 0, 0x2018, 0x2019, 0x201C, 0x201D, 0x2022, 0x2013, 0x2014, 0x02DC,
    0x2122, 0x0161, 0x203A, 0x0153, 0, 0x017E, 0x0178]

/-- The character that a number stands for. -/
def numbered (n : Nat) : Char :=
  if n = 0 ∨ !n.isValidChar then replacement
  else if 0x80 ≤ n ∧ n < 0xA0 then
    match replacedControls[n - 0x80]? with
    | some m => if m = 0 then Char.ofNat n else Char.ofNat m
    | none => Char.ofNat n
  else Char.ofNat n

/-- The number that digits denote in a base. -/
def digitsValue (base : Nat) (ds : List Char) : Nat :=
  ds.foldl (fun n d => n * base + (Json.hexValue? d).getD 0) 0

/-- The text of a reference by number after `#`, and what follows it. -/
def numberedReference (cs : List Char) : Option (List Char × List Char) :=
  let found (base : Nat) (cs : List Char) : Option (List Char × List Char) :=
    let isDigit (c : Char) : Bool := match Json.hexValue? c with
      | some d => d < base
      | none => false
    let ds := cs.takeWhile isDigit
    if ds.isEmpty then none
    else
      let rest := match cs.dropWhile isDigit with
        | ';' :: rest => rest
        | rest => rest
      some ([numbered (digitsValue base ds)], rest)
  match cs with
  | 'x' :: cs | 'X' :: cs => found 16 cs
  | _ => found 10 cs

/-- The text of a reference after `&`, and what follows it. In the value of an attribute a name
without a semicolon is no reference when a letter, a digit or an equals sign follows. -/
def reference (inValue : Bool) (cs : List Char) : List Char × List Char :=
  match cs with
  | '#' :: rest => (numberedReference rest).getD (['&'], cs)
  | _ =>
    match longestEntity? cs with
    | none => (['&'], cs)
    | some e =>
      let rest := cs.drop e.name.length
      let isOpen := inValue && e.name.getLast? != some ';' &&
        match rest with
        | c :: _ => c == '=' || c.isAlphanum
        | [] => false
      if isOpen then (['&'], cs) else (e.value, rest)

/-- The value of an attribute, its references resolved. `fuel` is at least the length of the
text. -/
def valueText (fuel : Nat) (cs : List Char) : List Char :=
  match fuel, cs with
  | fuel + 1, '&' :: rest =>
    let (text, rest) := reference true rest
    text ++ valueText fuel rest
  | fuel + 1, c :: rest => (if c.toNat = 0 then replacement else c) :: valueText fuel rest
  | _, _ => []

/-! ### Tags -/

/-- The value of an attribute after its equals sign, and what follows it. -/
def attributeValue (cs : List Char) : List Char × List Char :=
  match cs.dropWhile isGap with
  | [] => ([], [])
  | c :: rest =>
    if c = '"' ∨ c = '\'' then (rest.takeWhile (· != c), (rest.dropWhile (· != c)).drop 1)
    else
      let isValue (c : Char) : Bool := !isGap c && c != '>'
      ((c :: rest).takeWhile isValue, (c :: rest).dropWhile isValue)

/-- What stands in a tag after its name, and what follows the tag, unless the text ends in it. The
attributes read so far are `done`, last first; one whose name has been read already is passed over.
`fuel` is at least the length of the text. -/
def tagRest (fuel : Nat) (done : List (String × String)) (cs : List Char) :
    Option (List (String × String) × Bool × List Char) :=
  match fuel with
  | 0 => none
  | fuel + 1 =>
    match cs.dropWhile isGap with
    | [] => none
    | '>' :: rest => some (done.reverse, false, rest)
    | '/' :: '>' :: rest => some (done.reverse, true, rest)
    | '/' :: rest => tagRest fuel done rest
    | c :: cs =>
      let isName (c : Char) : Bool := !isGap c && c != '/' && c != '>' && c != '='
      let name := String.ofList ((c :: cs.takeWhile isName).map nameChar)
      let (value, rest) := match (cs.dropWhile isName).dropWhile isGap with
        | '=' :: rest => attributeValue rest
        | rest => ([], rest)
      let value := String.ofList (valueText value.length value)
      tagRest fuel (if done.any (fun a => a.1 == name) then done else (name, value) :: done) rest

/-- The tag whose name begins here, and what follows it, unless the text ends in it. -/
def tag? (cs : List Char) : Option (Tag × List Char) :=
  let isName (c : Char) : Bool := !isGap c && c != '/' && c != '>'
  let name := cs.takeWhile isName
  (tagRest (cs.length + 1) [] (cs.dropWhile isName)).map fun (attributes, selfClosing, rest) =>
    (⟨String.ofList (name.map nameChar), attributes, selfClosing⟩, rest)

/-! ### What begins with a bracket -/

/-- A token, if it says anything, and what follows it. -/
abbrev Step := Option Token × List Char

/-- The text after the next `>`. -/
def afterBracket (cs : List Char) : List Char := (cs.dropWhile (· != '>')).drop 1

/-- The text after a comment. -/
def afterComment : List Char → List Char
  | '-' :: '-' :: '>' :: rest => rest
  | '-' :: '-' :: '!' :: '>' :: rest => rest
  | _ :: rest => afterComment rest
  | [] => []

/-- The text of a section of character data, and what follows it. -/
def characterData (acc : List Char) : List Char → List Char × List Char
  | ']' :: ']' :: '>' :: rest => (acc.reverse, rest)
  | c :: rest => characterData (c :: acc) rest
  | [] => (acc.reverse, [])

/-- A tag as a token; nothing is left of a text that ends in it. -/
def tagStep (make : Tag → Token) (cs : List Char) : Step :=
  match tag? cs with
  | some (t, rest) => (some (make t), rest)
  | none => (none, [])

/-- What begins with `<` in normal content. Only inside other vocabularies is there a section of
character data. -/
def marked (inForeign : Bool) (cs : List Char) : Step :=
  match cs with
  | '/' :: rest =>
    match rest with
    | [] => (some (.text ['<', '/']), [])
    | '>' :: rest => (none, rest)
    | c :: _ => if c.isAlpha then tagStep .closing rest else (none, afterBracket rest)
  | '!' :: '-' :: '-' :: '>' :: rest => (none, rest)
  | '!' :: '-' :: '-' :: '-' :: '>' :: rest => (none, rest)
  | '!' :: '-' :: '-' :: rest => (none, afterComment rest)
  | '!' :: rest =>
    match if inForeign then "[CDATA[".toList.isPrefixOf? rest else none with
    | some rest =>
      let (text, rest) := characterData [] rest
      (some (.text text), rest)
    | none => (none, afterBracket rest)
  | '?' :: rest => (none, afterBracket rest)
  | c :: _ => if c.isAlpha then tagStep .opening cs else (some (.text ['<']), cs)
  | [] => (some (.text ['<']), [])

/-! ### Scripts -/

/-- Whether a text begins with a name in any case, and the name ends there. -/
def beginsWithName (name : List Char) (cs : List Char) : Bool :=
  (cs.take name.length).map Char.toLower == name &&
    match cs.drop name.length with
    | c :: _ => isGap c || c == '/' || c == '>'
    | [] => false

/-- Where in a script a character stands: outside comments, in one, or in a script in one. In a
comment the hyphens just before are counted, up to two. -/
inductive ScriptPlace where
  | outside
  | comment (hyphens : Nat)
  | nested (hyphens : Nat)

/-- The text of a script up to its end tag, and what follows. -/
def scriptText (place : ScriptPlace) (acc : List Char) : List Char → List Char × List Char
  | [] => (acc.reverse, [])
  | c :: cs =>
    let isEnd := c = '<' && beginsWithName "/script".toList cs
    match place with
    | .outside =>
      if isEnd then (acc.reverse, c :: cs)
      else if c = '<' ∧ "!--".toList.isPrefixOf cs then scriptText (.comment 0) (c :: acc) cs
      else scriptText .outside (c :: acc) cs
    | .comment hyphens =>
      if isEnd then (acc.reverse, c :: cs)
      else if c = '<' ∧ beginsWithName "script".toList cs then
        scriptText (.nested 0) (c :: acc) cs
      else if c = '>' ∧ 2 ≤ hyphens then scriptText .outside (c :: acc) cs
      else scriptText (.comment (if c = '-' then hyphens + 1 else 0)) (c :: acc) cs
    | .nested hyphens =>
      if isEnd then scriptText (.comment 0) (c :: acc) cs
      else if c = '>' ∧ 2 ≤ hyphens then scriptText .outside (c :: acc) cs
      else scriptText (.nested (if c = '-' then hyphens + 1 else 0)) (c :: acc) cs

/-! ### One token -/

/-- What begins with `<` where only the end tag of an element counts. -/
def endStep (name : String) (cs : List Char) : Step :=
  if beginsWithName ('/' :: name.toList) cs then tagStep .closing (cs.drop 1)
  else (some (.text ['<']), cs)

/-- A run of text in which some characters do not occur. -/
def run (isText : Char → Bool) (c : Char) (cs : List Char) : Step :=
  (some (.text (c :: cs.takeWhile isText)), cs.dropWhile isText)

/-- The token that begins with `c`. -/
def next (content : Content) (inForeign : Bool) (c : Char) (cs : List Char) : Step :=
  let referenceStep : Step :=
    let (text, rest) := reference false cs
    (some (.text text), rest)
  match content with
  | .normal =>
    if c = '<' then marked inForeign cs
    else if c = '&' then referenceStep
    else run (fun c => c != '<' && c != '&') c cs
  | .escapable name =>
    if c = '<' then endStep name cs
    else if c = '&' then referenceStep
    else run (fun c => c != '<' && c != '&') c cs
  | .raw name => if c = '<' then endStep name cs else run (· != '<') c cs
  | .script =>
    match scriptText .outside [] (c :: cs) with
    | ([], _) => endStep "script" cs
    | (text, rest) => (some (.text text), rest)
  | .plain => (some (.text (c :: cs)), [])

end Html
end StatusRelay
