/-
# The pieces of an XML document

A document is cut into pieces before any of it is understood. Markup is made of ASCII in every
encoding that is read, so the cutting is done on bytes; here a byte is held as the character with
its number, which lets markup be written as markup.

| a piece begins with | and ends with |
| --- | --- |
| `<!--` | `-->` |
| `<![CDATA[` | `]]>` |
| `<!` and `DOCTYPE` in any case | the `>` that closes it, with as many of `<` as of `>` inside |
| `<?` | `?>` |
| `</` | `>` |
| `<` | `>` outside quotation marks |
| `&` | `;`, with no `&` and no `<` before it |
| any other character | the character before the next `<` or `&` |

Comments, processing instructions and document types are dropped, a section of character data is
text. What begins like a piece and does not end like one is a flaw, and nothing is read after it.
-/

namespace StatusRelay
namespace Xml

/-- A piece of a document; the parts are bytes. -/
inductive Piece where
  /-- The content of `<?xml … ?>`. -/
  | declaration (content : List Char)
  /-- A start tag: what stands inside, and whether the element ends at once. -/
  | opening (content : List Char) (isEmpty : Bool)
  /-- An end tag. -/
  | closing (name : List Char)
  | text (content : List Char)
  /-- What stands between `&` and `;`. -/
  | reference (name : List Char)
  | flaw
  deriving DecidableEq, Repr, Inhabited

/-- Whether a character is white space of markup. -/
def isGap (c : Char) : Bool := c == ' ' || c == '\t' || c == '\r' || c == '\n'

/-! ### Where a piece ends -/

/-- The text before the first occurrence of a mark, and what follows the mark. `acc` holds what was
read, last first. -/
def upTo (mark : List Char) (acc : List Char) : List Char → Option (List Char × List Char)
  | [] => none
  | c :: cs =>
    match mark.isPrefixOf? (c :: cs) with
    | some rest => some (acc.reverse, rest)
    | none => upTo mark (c :: acc) cs

/-- The inside of a start tag, and what follows the tag. -/
def tagEnd (quote : Option Char) (acc : List Char) : List Char → Option (List Char × List Char)
  | [] => none
  | c :: cs =>
    match quote with
    | some q => tagEnd (if c = q then none else some q) (c :: acc) cs
    | none =>
      if c = '>' then some (acc.reverse, cs)
      else tagEnd (if c = '"' ∨ c = '\'' then some c else none) (c :: acc) cs

/-- The inside of a document type, and what follows it; `depth` is the number of `<` that are still
open inside. -/
def typeEnd (depth : Nat) (acc : List Char) : List Char → Option (List Char × List Char)
  | [] => none
  | c :: cs =>
    if c = '<' then typeEnd (depth + 1) (c :: acc) cs
    else if c = '>' then
      match depth with
      | 0 => some (acc.reverse, cs)
      | depth + 1 => typeEnd depth (c :: acc) cs
    else typeEnd depth (c :: acc) cs

/-- The name of a reference, and what follows it. -/
def referenceEnd (acc : List Char) : List Char → Option (List Char × List Char)
  | [] => none
  | c :: cs =>
    if c = ';' then some (acc.reverse, cs)
    else if c = '&' ∨ c = '<' then none
    else referenceEnd (c :: acc) cs

/-! ### One piece -/

/-- A piece, if it is kept, and what follows it. -/
abbrev Step := Option Piece × List Char

/-- What to make of the inside of a piece; without an end there is a flaw. -/
def ended (found : Option (List Char × List Char)) (make : List Char → Option Piece) : Step :=
  match found with
  | some (content, rest) => (make content, rest)
  | none => (some .flaw, [])

/-- A start tag. -/
def ofTag (content : List Char) : Piece :=
  match content.getLast? with
  | some '/' => .opening content.dropLast true
  | _ => .opening content false

/-- A processing instruction, of which only the declaration is kept. -/
def ofInstruction (content : List Char) : Option Piece :=
  match "xml".toList.isPrefixOf? content with
  | some [] => some (.declaration [])
  | some (c :: rest) => if isGap c then some (.declaration rest) else none
  | none => none

/-- A document type, which must have its keyword and a name. -/
def ofType (content : List Char) : Option Piece :=
  if (content.take 7).map Char.toLower = "doctype".toList ∧ !(content.drop 7).all isGap then none
  else some .flaw

/-- What begins with `<!`. -/
def declared (cs : List Char) : Step :=
  match cs with
  | '-' :: '-' :: rest => ended (upTo "-->".toList [] rest) fun _ => none
  | '[' :: rest =>
    match "CDATA[".toList.isPrefixOf? rest with
    | some rest => ended (upTo "]]>".toList [] rest) fun content => some (.text content)
    | none => (some .flaw, [])
  | c :: rest =>
    if c = 'D' ∨ c = 'd' then ended (typeEnd 0 [c] rest) ofType else (some .flaw, [])
  | [] => (some .flaw, [])

/-- What begins with `<`. -/
def marked (cs : List Char) : Step :=
  match cs with
  | '!' :: rest => declared rest
  | '?' :: rest => ended (upTo "?>".toList [] rest) ofInstruction
  | '/' :: rest => ended (upTo ">".toList [] rest) fun content =>
    some (.closing (content.reverse.dropWhile isGap).reverse)
  | _ => ended (tagEnd none [] cs) fun content => some (ofTag content)

/-- The piece that begins with `c`. -/
def next (c : Char) (cs : List Char) : Step :=
  if c = '<' then marked cs
  else if c = '&' then ended (referenceEnd [] cs) fun content => some (.reference content)
  else
    let isText (c : Char) : Bool := c != '<' && c != '&'
    (some (.text (c :: cs.takeWhile isText)), cs.dropWhile isText)

/-! ### What is left is shorter -/

theorem length_of_isPrefixOf? {mark cs rest : List Char} (h : mark.isPrefixOf? cs = some rest) :
    rest.length ≤ cs.length := by
  induction mark generalizing cs with
  | nil =>
    have h : some cs = some rest := h
    cases h
    exact Nat.le_refl _
  | cons m mark ih =>
    cases cs with
    | nil =>
      have h : none = some rest := h
      cases h
    | cons c cs =>
      have h : (if m == c then mark.isPrefixOf? cs else none) = some rest := h
      split at h
      · exact Nat.le_succ_of_le (ih h)
      · cases h

theorem length_upTo_le {mark acc cs a rest : List Char} (h : upTo mark acc cs = some (a, rest)) :
    rest.length ≤ cs.length := by
  induction cs generalizing acc with
  | nil => simp [upTo] at h
  | cons c cs ih =>
    simp only [upTo] at h
    split at h
    · next r hr =>
      simp only [Option.some.injEq, Prod.mk.injEq] at h
      rw [← h.2]
      exact length_of_isPrefixOf? hr
    · exact Nat.le_succ_of_le (ih h)

theorem length_tagEnd_le {quote : Option Char} {acc cs a rest : List Char}
    (h : tagEnd quote acc cs = some (a, rest)) : rest.length ≤ cs.length := by
  induction cs generalizing quote acc with
  | nil => simp [tagEnd] at h
  | cons c cs ih =>
    simp only [tagEnd] at h
    split at h
    · exact Nat.le_succ_of_le (ih h)
    · split at h
      · simp only [Option.some.injEq, Prod.mk.injEq] at h
        simp [← h.2]
      · exact Nat.le_succ_of_le (ih h)

theorem length_typeEnd_le {depth : Nat} {acc cs a rest : List Char}
    (h : typeEnd depth acc cs = some (a, rest)) : rest.length ≤ cs.length := by
  induction cs generalizing depth acc with
  | nil => simp [typeEnd] at h
  | cons c cs ih =>
    simp only [typeEnd] at h
    split at h
    · exact Nat.le_succ_of_le (ih h)
    · split at h
      · split at h
        · simp only [Option.some.injEq, Prod.mk.injEq] at h
          simp [← h.2]
        · exact Nat.le_succ_of_le (ih h)
      · exact Nat.le_succ_of_le (ih h)

theorem length_referenceEnd_le {acc cs a rest : List Char}
    (h : referenceEnd acc cs = some (a, rest)) : rest.length ≤ cs.length := by
  induction cs generalizing acc with
  | nil => simp [referenceEnd] at h
  | cons c cs ih =>
    simp only [referenceEnd] at h
    split at h
    · simp only [Option.some.injEq, Prod.mk.injEq] at h
      simp [← h.2]
    · split at h
      · cases h
      · exact Nat.le_succ_of_le (ih h)

theorem length_ended_le {found : Option (List Char × List Char)} {make : List Char → Option Piece}
    {cs : List Char} (h : ∀ a rest, found = some (a, rest) → rest.length ≤ cs.length) :
    (ended found make).2.length ≤ cs.length := by
  unfold ended
  split
  · exact h _ _ rfl
  · simp

theorem length_declared_le (cs : List Char) : (declared cs).2.length ≤ cs.length := by
  unfold declared
  split
  · refine Nat.le_trans (length_ended_le fun _ _ => length_upTo_le) ?_
    simp only [List.length_cons]
    omega
  · split
    · next hr =>
      refine Nat.le_trans (length_ended_le fun _ _ => length_upTo_le) ?_
      exact Nat.le_succ_of_le (length_of_isPrefixOf? hr)
    · simp
  · split
    · exact Nat.le_succ_of_le (length_ended_le fun _ _ => length_typeEnd_le)
    · simp
  · simp

/-- **What is left after a piece is not longer than what followed its first character.** -/
theorem length_next_le (c : Char) (cs : List Char) : (next c cs).2.length ≤ cs.length := by
  unfold next
  split
  · unfold marked
    split
    · exact Nat.le_succ_of_le (length_declared_le _)
    · exact Nat.le_succ_of_le (length_ended_le fun _ _ => length_upTo_le)
    · exact Nat.le_succ_of_le (length_ended_le fun _ _ => length_upTo_le)
    · exact length_ended_le fun _ _ => length_tagEnd_le
  · split
    · exact length_ended_le fun _ _ => length_referenceEnd_le
    · exact (List.dropWhile_suffix _).length_le

/-- The pieces of a document, in order. -/
def pieces (cs : List Char) : List Piece :=
  match cs with
  | [] => []
  | c :: cs =>
    have := length_next_le c cs
    (next c cs).1.toList ++ pieces (next c cs).2
  termination_by cs.length
  decreasing_by exact Nat.lt_succ_of_le this

end Xml
end StatusRelay
