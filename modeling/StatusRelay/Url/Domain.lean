/-
# Domain names

A domain name is a list of labels with points between them. It is written in ASCII when it goes
over the wire: a label with other characters becomes `xn--` followed by its form in ASCII.

| label | what becomes of it |
| --- | --- |
| ASCII | letters in lower case |
| `xn--` and more | the same, if it denotes a label that is valid as it stands |
| anything else | its characters as they are written in names, composed; then as above |

A label is valid if it does not begin with a mark, and if its joiners stand where they have an
effect. If some label is written from right to left, all labels must keep to the rules for
directions.
-/

import StatusRelay.Text.Composition
import StatusRelay.Url.Address
import StatusRelay.Url.Domain.Classes
import StatusRelay.Url.Domain.Mapping
import StatusRelay.Url.Domain.Punycode

namespace StatusRelay.Url.Domain

/-! ### Joiners -/

/-- Whether a character binds two consonants. -/
def isBinding (c : Char) : Bool := Text.Composition.classOf c.toNat == 9

/-- Whether the first character that is not transparent belongs to a set. -/
def joinsWith (p : Char → Bool) (cs : List Char) : Bool :=
  match cs.dropWhile fun c => isTransparent c && !p c with
  | c :: _ => p c
  | [] => false

/-- Whether a joiner has an effect between what stands before it, given from its end, and what
stands after it. -/
def joinerFits (c : Char) (before after : List Char) : Bool :=
  (match before with
    | b :: _ => isBinding b
    | [] => false) ||
  (c.toNat == 0x200C &&
    joinsWith (fun b => joinsNext.contains b.toNat || joinsBoth.contains b.toNat) before &&
    joinsWith (fun a => joinsBefore.contains a.toNat || joinsBoth.contains a.toNat) after)

/-- Whether all joiners have an effect, given what stands before, from its end. -/
def joinersFit (before : List Char) : List Char → Bool
  | [] => true
  | c :: cs =>
    ((c.toNat != 0x200C && c.toNat != 0x200D) || joinerFits c before cs) &&
      joinersFit (c :: before) cs

/-! ### Directions -/

/-- Whether a label has characters that are written from right to left. -/
def isRightToLeft (label : List Char) : Bool :=
  label.any fun c => [.rightToLeft, .arabicLetter, .arabicNumber].contains (directionOf c)

/-- Directions that can stand in every label. -/
def common : List Direction := [.europeanNumber, .europeanSeparator, .commonSeparator,
  .europeanTerminator, .neutral, .boundary, .mark]

/-- Whether a label keeps to the rules for directions. The first character decides which of them
can follow, and marks at the end do not count. -/
def keepsDirection (label : List Char) : Bool :=
  match label.map directionOf with
  | [] => true
  | first :: rest =>
    let body := (rest.reverse.dropWhile (· == .mark)).reverse
    let endsIn (ds : List Direction) : Bool := body.getLast?.all ds.contains
    match first with
    | .leftToRight =>
      body.all (.leftToRight :: common).contains && endsIn [.leftToRight, .europeanNumber]
    | .rightToLeft | .arabicLetter =>
      body.all (.rightToLeft :: .arabicLetter :: .arabicNumber :: common).contains &&
        endsIn [.rightToLeft, .arabicLetter, .europeanNumber, .arabicNumber] &&
        !(body.contains .europeanNumber && body.contains .arabicNumber)
    | _ => false

/-! ### Labels -/

/-- A label as it is read and as it goes over the wire. -/
structure Label where
  text : List Char
  ascii : List Char
  deriving DecidableEq, Repr, Inhabited

/-- Whether all characters are in ASCII. -/
def isAscii (cs : List Char) : Bool := cs.all fun c => c.toNat < 128

/-- How long a text after `xn--` may be. -/
def maxEncoded : Nat := 2000

/-- How long a label that is not in ASCII may be. -/
def maxLabel : Nat := 1000

/-- Whether a label does not begin with a mark, and has its joiners in the right places. -/
def isSound (label : List Char) : Bool :=
  !label.head?.any isMark && joinersFit [] label && (isAscii label || label.length ≤ maxLabel)

/-- The label that a text after `xn--` denotes, if it needs that form and is valid as it stands. -/
def decodeSound? (cs : List Char) : Option (List Char) := do
  if cs.isEmpty ∨ cs.getLast? = some '-' ∨ !isAscii cs ∨ maxEncoded < cs.length then none
  else
    let label ← Punycode.decode cs
    if label.all isValid && Text.composed label == label && isSound label then some label else none

/-- The text after `xn--`. -/
def afterMark? : List Char → Option (List Char)
  | 'x' :: 'n' :: '-' :: '-' :: rest => some rest
  | _ => none

/-- A label in ASCII. -/
def ofAscii? (cs : List Char) : Option Label :=
  let cs := cs.map Char.toLower
  if !cs.all isValid then none
  else match afterMark? cs with
    | none => some ⟨cs, cs⟩
    | some rest => (decodeSound? rest).map (⟨·, cs⟩)

/-- A label of characters as they are written in names. -/
def ofWritten? (cs : List Char) : Option Label := do
  let label ← match afterMark? cs with
    | none => if isSound cs then some cs else none
    | some rest => decodeSound? rest
  return ⟨label, if isAscii label then label else "xn--".toList ++ Punycode.encode label⟩

/-- The labels that text between two points denotes; in it may be points of other scripts. -/
def labels? (cs : List Char) : Option (List Label) :=
  if isAscii cs then (ofAscii? cs).map ([·])
  else do
    let written := Text.composed (← cs.mapM image?).flatten
    if written.all isValid then (written.splitOn '.').mapM ofWritten? else none

/-- The ASCII form of a domain name. -/
def toAscii? (cs : List Char) : Option (List Char) := do
  let labels ← (cs.splitOn '.').mapM labels?
  let labels := labels.flatten
  let texts := labels.map (·.text)
  if texts.any isRightToLeft && !texts.all keepsDirection then none
  else some (['.'].intercalate (labels.map (·.ascii)))

end StatusRelay.Url.Domain
