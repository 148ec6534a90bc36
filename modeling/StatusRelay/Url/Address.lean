/-
# Addresses of machines

**Four numbers.** A domain name whose last part is a number is an address of 32 bits. It has up to
four parts, each a decimal number, an octal one after `0`, or a hexadecimal one after `0x`. All but
the last stand for one byte each; the last stands for all the bytes that are left. A point at the
end is ignored.

**Eight pieces.** Between brackets stand eight pieces of up to four hexadecimal digits, separated
by colons. Once, two colons stand for one piece or more that are zero. Four decimal numbers with
points between them may take the place of the last two pieces.
-/

import StatusRelay.Url

namespace StatusRelay.Url

/-- The value of a digit in a base up to sixteen. -/
def digit? (base : Nat) (c : Char) : Option Nat :=
  let value :=
    if c.isDigit then c.toNat - 48
    else if 'a' ≤ c ∧ c ≤ 'f' then c.toNat - 87
    else if 'A' ≤ c ∧ c ≤ 'F' then c.toNat - 55
    else 16
  if value < base then some value else none

/-- The number that digits denote in a base; zero if there are none. -/
def number? (base : Nat) (cs : List Char) : Option Nat :=
  cs.foldlM (fun n c => (digit? base c).map (n * base + ·)) 0

/-! ### Four numbers -/

/-- The number that a part of an address denotes. -/
def ipv4Part? : List Char → Option Nat
  | [] => none
  | '0' :: 'x' :: ds | '0' :: 'X' :: ds => number? 16 ds
  | '0' :: d :: ds => number? 8 (d :: ds)
  | ds => number? 10 ds

/-- The parts of a name, without the empty one after a point at the end. -/
def parts (name : List Char) : List (List Char) :=
  let all := name.splitOn '.'
  if 1 < all.length ∧ all.getLast? = some [] then all.dropLast else all

/-- Whether the last part of a name is a number. -/
def endsInNumber (name : List Char) : Bool :=
  match (parts name).getLast? with
  | some part => !part.isEmpty && (part.all Char.isDigit || (ipv4Part? part).isSome)
  | none => false

/-- The address that parts denote: the last takes all the bytes that are left. -/
def ofParts? : Nat → List Nat → Option Nat
  | _, [] => none
  | left, [n] => if n < Nat.pow 256 left then some n else none
  | left, n :: ns =>
    if n < 256 then (ofParts? (left - 1) ns).map (n * Nat.pow 256 (left - 1) + ·) else none

/-- The address that a name denotes. -/
def ipv4? (name : List Char) : Option Nat :=
  let ps := parts name
  if 4 < ps.length then none else ps.mapM ipv4Part? >>= ofParts? 4

/-! ### Eight pieces -/

/-- The value of one piece. -/
def piece? (cs : List Char) : Option Nat :=
  if cs.isEmpty ∨ 4 < cs.length then none else number? 16 cs

/-- The value of one of four decimal numbers at the end. -/
def octet? (cs : List Char) : Option Nat :=
  match cs with
  | [] => none
  | '0' :: _ :: _ => none
  | _ => (number? 10 cs).bind fun n => if n < 256 then some n else none

/-- The two pieces that four decimal numbers stand for. -/
def quad? (cs : List Char) : Option (List Nat) :=
  match (cs.splitOn '.').mapM octet? with
  | some [a, b, c, d] => some [a * 256 + b, c * 256 + d]
  | _ => none

/-- The pieces between colons; only the last may be four decimal numbers. -/
def pieces? : List (List Char) → Option (List Nat)
  | [] => some []
  | [cs] => if cs.contains '.' then quad? cs else (piece? cs).map ([·])
  | cs :: more => do
    let n ← piece? cs
    let ns ← pieces? more
    return n :: ns

/-- The text before the first two colons and the text after them. -/
def splitGap : List Char → Option (List Char × List Char)
  | ':' :: ':' :: rest => some ([], rest)
  | c :: rest => (splitGap rest).map fun (l, r) => (c :: l, r)
  | [] => none

/-- The pieces of a side of the two colons, which may be empty. -/
def side? (cs : List Char) : Option (List Nat) :=
  if cs.isEmpty then some [] else pieces? (cs.splitOn ':')

/-- The eight pieces that the text between brackets denotes. -/
def ipv6? (cs : List Char) : Option (List Nat) :=
  match splitGap cs with
  | none => (pieces? (cs.splitOn ':')).bind fun ns => if ns.length = 8 then some ns else none
  | some (l, r) => do
    let left ← side? l
    let right ← side? r
    if l.contains '.' ∨ 7 < left.length + right.length then none
    else some (left ++ List.replicate (8 - left.length - right.length) 0 ++ right)

end StatusRelay.Url
