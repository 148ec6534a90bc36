/-
# Reading JSON text

The reader goes through the text once and the first fault it meets decides. A fault is of one of
three kinds: the text ended early, the text is not JSON here, or the text is JSON but not of the
shape that is asked for. The pieces of the grammar (strings, numerals, names, values that are
only skipped) are separate readers, so that a record can be read member by member and report a
wrong shape before a later flaw of the text is seen.

Three rules go beyond the grammar. A string may hold no character below U+0020 as it is, an
escaped surrogate must have its partner, and a numeral that is kept must not be larger than every
finite double; a skipped string or numeral is only checked for its form.
-/

import StatusRelay.Json

namespace StatusRelay
namespace Json

/-- Why a text cannot be read. -/
inductive Fault where
  /-- The text ended inside a value. -/
  | ended
  /-- The text is not JSON. -/
  | malformed
  /-- The text is JSON of another shape. -/
  | mismatched
  deriving DecidableEq, Repr

/-- Whether a character may stand between the tokens. -/
def isGap (c : Char) : Bool := c == ' ' || c == '\n' || c == '\t' || c == '\r'

/-- The text from its first token on. -/
def skipGaps (cs : List Char) : List Char := cs.dropWhile isGap

/-! ### Strings -/

/-- The value of a hexadecimal digit. -/
def hexValue? (c : Char) : Option Nat :=
  if '0' ≤ c ∧ c ≤ '9' then some (c.toNat - 48)
  else if 'a' ≤ c ∧ c ≤ 'f' then some (c.toNat - 87)
  else if 'A' ≤ c ∧ c ≤ 'F' then some (c.toNat - 55)
  else none

/-- The value of four hexadecimal digits. -/
def hexFour? (a b c d : Char) : Option Nat := do
  let a ← hexValue? a
  let b ← hexValue? b
  let c ← hexValue? c
  let d ← hexValue? d
  return ((a * 16 + b) * 16 + c) * 16 + d

/-- The fault of an escape that has fewer than four characters left: the text has ended, unless
what is left takes four bytes. -/
def shortEscape (cs : List Char) : Fault :=
  if (cs.map Char.utf8Size).foldl (· + ·) 0 < 4 then .ended else .malformed

/-- The character of a one-letter escape. -/
def shortForm? (c : Char) : Option Char :=
  if c = '"' ∨ c = '\\' ∨ c = '/' then some c
  else if c = 'b' then some (Char.ofNat 8)
  else if c = 'f' then some (Char.ofNat 12)
  else if c = 'n' then some '\n'
  else if c = 'r' then some '\r'
  else if c = 't' then some '\t'
  else none

/-- The rest of a string after its opening quote; `acc` holds what was read, last first. -/
def stringBody (acc : List Char) : List Char → Except Fault (List Char × List Char)
  | [] => .error .ended
  | ['\\'] => .error .ended
  | '\\' :: 'u' :: a :: b :: c :: d :: rest =>
    match hexFour? a b c d with
    | none => .error .malformed
    | some n =>
      if 0xDC00 ≤ n ∧ n ≤ 0xDFFF then .error .malformed
      else if 0xD800 ≤ n ∧ n ≤ 0xDBFF then
        match rest with
        | '\\' :: 'u' :: e :: f :: g :: h :: rest =>
          match hexFour? e f g h with
          | none => .error .malformed
          | some m =>
            if 0xDC00 ≤ m ∧ m ≤ 0xDFFF then
              stringBody (Char.ofNat (0x10000 + (n - 0xD800) * 0x400 + (m - 0xDC00)) :: acc) rest
            else .error .malformed
        | [] => .error .ended
        | ['\\'] => .error .ended
        | '\\' :: 'u' :: few => .error (shortEscape few)
        | _ => .error .malformed
      else stringBody (Char.ofNat n :: acc) rest
  | '\\' :: 'u' :: few => .error (shortEscape few)
  | '\\' :: c :: rest =>
    match shortForm? c with
    | some e => stringBody (e :: acc) rest
    | none => .error .malformed
  | c :: rest =>
    if c = '"' then .ok (acc.reverse, rest)
    else if c.toNat < 32 then .error .malformed
    else stringBody (c :: acc) rest

/-- The text after a string whose opening quote has been read and whose content is not kept. -/
def skipString : List Char → Except Fault (List Char)
  | [] => .error .ended
  | ['\\'] => .error .ended
  | '\\' :: 'u' :: a :: b :: c :: d :: rest =>
    match hexFour? a b c d with
    | none => .error .malformed
    | some _ => skipString rest
  | '\\' :: 'u' :: few => .error (shortEscape few)
  | '\\' :: c :: rest =>
    match shortForm? c with
    | some _ => skipString rest
    | none => .error .malformed
  | c :: rest =>
    if c = '"' then .ok rest
    else if c.toNat < 32 then .error .malformed
    else skipString rest

/-! ### Numerals -/

/-- A numeral, by its parts. -/
structure Numeral where
  negative : Bool
  whole : List Char
  fraction : List Char
  exponent : Option (Bool × List Char)

namespace Numeral

/-- The number that a list of decimal digits denotes. -/
def digitsValue (ds : List Char) : Nat := ds.foldl (fun n d => n * 10 + (d.toNat - 48)) 0

/-- Whether a numeral denotes no finite double: its magnitude is at least the first value that
rounds to infinity, `2 ^ 1024 - 2 ^ 970`. -/
def overflows (n : Numeral) : Bool :=
  let mantissa := digitsValue (n.whole ++ n.fraction)
  if mantissa = 0 then false
  else
    let places := n.fraction.length
    let limit := Nat.pow 2 1024 - Nat.pow 2 970
    match n.exponent with
    | none => mantissa ≥ limit * Nat.pow 10 places
    | some (true, _) => false
    | some (false, ds) =>
      let ds := ds.dropWhile (· == '0')
      if ds.length > 9 then true
      else
        let e := digitsValue ds
        if e > 400 + places then true
        else mantissa * Nat.pow 10 e ≥ limit * Nat.pow 10 places

/-- The value of a numeral. -/
def toJson (n : Numeral) : Json :=
  match n.fraction, n.exponent with
  | [], none =>
    let m := digitsValue n.whole
    if n.negative then (if m = 0 then .decimal "-0" else .int (-(m : Int))) else .int m
  | _, _ =>
    let sign := if n.negative then ['-'] else []
    let point := if n.fraction.isEmpty then [] else '.' :: n.fraction
    let power := match n.exponent with
      | none => []
      | some (down, ds) => 'e' :: (if down then ['-'] else []) ++ ds
    .decimal (String.ofList (sign ++ n.whole ++ point ++ power))

end Numeral

/-- The exponent of a numeral, after its letter. -/
def exponent (cs : List Char) : Except Fault ((Bool × List Char) × List Char) :=
  let (down, cs) := match cs with
    | '+' :: r => (false, r)
    | '-' :: r => (true, r)
    | _ => (false, cs)
  match cs with
  | [] => .error .ended
  | c :: _ =>
    if c.isDigit then .ok ((down, cs.takeWhile Char.isDigit), cs.dropWhile Char.isDigit)
    else .error .malformed

/-- What may follow the whole part of a numeral. -/
def numeralTail (negative : Bool) (whole : List Char) (cs : List Char) :
    Except Fault (Numeral × List Char) :=
  let power (fraction : List Char) (cs : List Char) : Except Fault (Numeral × List Char) :=
    match cs with
    | c :: r =>
      if c = 'e' ∨ c = 'E' then do
        let (e, r) ← exponent r
        return (⟨negative, whole, fraction, some e⟩, r)
      else .ok (⟨negative, whole, fraction, none⟩, cs)
    | [] => .ok (⟨negative, whole, fraction, none⟩, [])
  match cs with
  | '.' :: r =>
    match r with
    | [] => .error .ended
    | c :: _ =>
      if c.isDigit then power (r.takeWhile Char.isDigit) (r.dropWhile Char.isDigit)
      else .error .malformed
  | _ => power [] cs

/-- A numeral after its sign. -/
def unsignedNumeral (negative : Bool) (cs : List Char) : Except Fault (Numeral × List Char) :=
  match cs with
  | [] => .error .ended
  | c :: r =>
    if c = '0' then
      match r with
      | d :: _ => if d.isDigit then .error .malformed else numeralTail negative ['0'] r
      | [] => numeralTail negative ['0'] []
    else if c.isDigit then
      numeralTail negative (cs.takeWhile Char.isDigit) (cs.dropWhile Char.isDigit)
    else .error .malformed

/-- A numeral. -/
def numeral (cs : List Char) : Except Fault (Numeral × List Char) :=
  match cs with
  | '-' :: r => unsignedNumeral true r
  | _ => unsignedNumeral false cs

/-- A numeral that denotes a finite double. -/
def finiteNumeral (cs : List Char) : Except Fault (Numeral × List Char) := do
  let (n, r) ← numeral cs
  if n.overflows then .error .malformed else return (n, r)

/-! ### Names and values that are skipped -/

/-- The text after a fixed name whose first letter has been read. -/
def name (expected : List Char) (cs : List Char) : Except Fault (List Char) :=
  match expected, cs with
  | [], cs => .ok cs
  | _ :: _, [] => .error .ended
  | e :: es, c :: r => if c = e then name es r else .error .malformed

/-- What encloses a skipped value. -/
inductive Bracket where
  | square | curly
  deriving DecidableEq

/-- What follows a skipped value inside `brackets`, innermost first: the end of one of them or
more, then a comma. The result holds the brackets that are still open, none of them when the
outermost value has ended. -/
def closeBrackets (brackets : List Bracket) (cs : List Char) :
    Except Fault (List Bracket × List Char) :=
  match brackets with
  | [] => .ok ([], cs)
  | b :: outer =>
    match skipGaps cs with
    | [] => .error .ended
    | c :: r =>
      if c = ',' then .ok (b :: outer, r)
      else if (b = .square ∧ c = ']') ∨ (b = .curly ∧ c = '\x7d') then closeBrackets outer r
      else .error .malformed

/-- The text after a skipped member name and its colon. -/
def skipKey (cs : List Char) : Except Fault (List Char) :=
  match skipGaps cs with
  | [] => .error .ended
  | c :: r =>
    if c = '"' then do
      let r ← skipString r
      match skipGaps r with
      | [] => .error .ended
      | c :: r => if c = ':' then .ok r else .error .malformed
    else .error .malformed

/-- The text after a skipped value that has no parts, or nothing when an array or an object with
parts begins here: then the result holds the bracket and the text of its first part. -/
def skipOne (cs : List Char) : Except Fault (Option Bracket × List Char) :=
  match skipGaps cs with
  | [] => .error .ended
  | c :: r =>
    if c = 'n' then do return (none, ← name "ull".toList r)
    else if c = 't' then do return (none, ← name "rue".toList r)
    else if c = 'f' then do return (none, ← name "alse".toList r)
    else if c = '-' ∨ c.isDigit then do
      let (_, r) ← numeral (c :: r)
      return (none, r)
    else if c = '"' then do return (none, ← skipString r)
    else if c = '[' then
      match skipGaps r with
      | ']' :: r => .ok (none, r)
      | [] => .error .ended
      | _ => .ok (some .square, r)
    else if c = '\x7b' then
      match skipGaps r with
      | '\x7d' :: r => .ok (none, r)
      | [] => .error .ended
      | _ => do return (some .curly, ← skipKey r)
    else .error .malformed

/-- The text after a skipped value inside `brackets`, innermost first, and after the ends of them
all; the depth of a skipped value has no limit. `fuel` is at least the length of the text. -/
def skipAt (fuel : Nat) (brackets : List Bracket) (cs : List Char) : Except Fault (List Char) :=
  match fuel with
  | 0 => .error .ended
  | fuel + 1 => do
    let (opened, r) ← skipOne cs
    match opened with
    | some b => skipAt fuel (b :: brackets) r
    | none =>
      let (brackets, r) ← closeBrackets brackets r
      match brackets with
      | [] => return r
      | .square :: _ => skipAt fuel brackets r
      | .curly :: _ => skipAt fuel brackets (← skipKey r)

/-- The text after a value that is not kept. -/
def skip (cs : List Char) : Except Fault (List Char) := skipAt (cs.length + 1) [] cs

/-! ### Values -/

mutual

/-- A value, with `fuel` at least twice the length of the text. -/
def valueAt (fuel : Nat) (cs : List Char) : Except Fault (Json × List Char) :=
  match fuel with
  | 0 => .error .ended
  | fuel + 1 =>
    match skipGaps cs with
    | [] => .error .ended
    | c :: r =>
      if c = 'n' then do return (.null, ← name "ull".toList r)
      else if c = 't' then do return (.bool true, ← name "rue".toList r)
      else if c = 'f' then do return (.bool false, ← name "alse".toList r)
      else if c = '-' ∨ c.isDigit then do
        let (n, r) ← finiteNumeral (c :: r)
        return (n.toJson, r)
      else if c = '"' then do
        let (s, r) ← stringBody [] r
        return (.str (String.ofList s), r)
      else if c = '[' then
        match skipGaps r with
        | ']' :: r => .ok (.arr [], r)
        | _ => do
          let (x, r) ← valueAt fuel r
          let (xs, r) ← itemsAt fuel [x] r
          return (.arr xs, r)
      else if c = '\x7b' then
        match skipGaps r with
        | '\x7d' :: r => .ok (.obj [], r)
        | _ => do
          let (m, r) ← memberAt fuel r
          let (ms, r) ← membersAt fuel [m] r
          return (.obj ms, r)
      else .error .malformed

/-- The items of an array after its first, up to the bracket that ends it. -/
def itemsAt (fuel : Nat) (acc : List Json) (cs : List Char) :
    Except Fault (List Json × List Char) :=
  match fuel with
  | 0 => .error .ended
  | fuel + 1 =>
    match skipGaps cs with
    | [] => .error .ended
    | c :: r =>
      if c = ']' then .ok (acc.reverse, r)
      else if c = ',' then do
        let (x, r) ← valueAt fuel r
        itemsAt fuel (x :: acc) r
      else .error .malformed

/-- One member of an object. -/
def memberAt (fuel : Nat) (cs : List Char) : Except Fault ((String × Json) × List Char) :=
  match fuel with
  | 0 => .error .ended
  | fuel + 1 =>
    match skipGaps cs with
    | [] => .error .ended
    | c :: r =>
      if c = '"' then do
        let (k, r) ← stringBody [] r
        match skipGaps r with
        | [] => .error .ended
        | c :: r =>
          if c = ':' then do
            let (v, r) ← valueAt fuel r
            return ((String.ofList k, v), r)
          else .error .malformed
      else .error .malformed

/-- The members of an object after its first, up to the brace that ends it. -/
def membersAt (fuel : Nat) (acc : List (String × Json)) (cs : List Char) :
    Except Fault (List (String × Json) × List Char) :=
  match fuel with
  | 0 => .error .ended
  | fuel + 1 =>
    match skipGaps cs with
    | [] => .error .ended
    | c :: r =>
      if c = '\x7d' then .ok (acc.reverse, r)
      else if c = ',' then do
        let (m, r) ← memberAt fuel r
        membersAt fuel (m :: acc) r
      else .error .malformed

end

/-- The value that a whole text denotes. -/
def read (text : List Char) : Except Fault Json := do
  let (v, r) ← valueAt (2 * text.length + 2) text
  if (skipGaps r).isEmpty then return v else .error .malformed

end Json
end StatusRelay
