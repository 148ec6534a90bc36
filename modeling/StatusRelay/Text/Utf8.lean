/-
# Text as bytes

A character takes one byte or a leading byte with up to three that continue it. The leading byte
says how many, and what the first of them may be:

| leading byte | continued by | first of them |
| --- | --- | --- |
| 00 … 7f | 0 | |
| c2 … df | 1 | 80 … bf |
| e0 | 2 | a0 … bf |
| e1 … ec, ee, ef | 2 | 80 … bf |
| ed | 2 | 80 … 9f |
| f0 | 3 | 90 … bf |
| f1 … f3 | 3 | 80 … bf |
| f4 | 3 | 80 … 8f |

Bytes that are not text are either refused, or read with a mark in the place of each flaw. A flaw
is one byte that cannot begin a character, or the longest beginning of a character that is not
continued.
-/

namespace StatusRelay
namespace Text

/-- The bytes of a character. -/
def encodeChar (c : Char) : List UInt8 :=
  let n := c.toNat
  let tail (shift : Nat) : UInt8 := UInt8.ofNat (0x80 + n / Nat.pow 2 shift % 64)
  if n < 0x80 then [UInt8.ofNat n]
  else if n < 0x800 then [UInt8.ofNat (0xC0 + n / 64), tail 0]
  else if n < 0x10000 then [UInt8.ofNat (0xE0 + n / 4096), tail 6, tail 0]
  else [UInt8.ofNat (0xF0 + n / 262144), tail 12, tail 6, tail 0]

/-- The bytes of a text. -/
def encode (cs : List Char) : List UInt8 := cs.flatMap encodeChar

/-- What a leading byte asks for. -/
structure Lead where
  /-- The part of the code point that the leading byte holds. -/
  value : Nat
  /-- How many bytes continue it. -/
  count : Nat
  /-- The range of the first of these. -/
  low : Nat
  high : Nat

/-- What a byte asks for as a leading byte, unless it cannot be one. -/
def lead? (b : UInt8) : Option Lead :=
  let n := b.toNat
  if n < 0x80 then some ⟨n, 0, 0, 0⟩
  else if n < 0xC2 then none
  else if n < 0xE0 then some ⟨n - 0xC0, 1, 0x80, 0xBF⟩
  else if n < 0xF0 then
    some ⟨n - 0xE0, 2, if n = 0xE0 then 0xA0 else 0x80, if n = 0xED then 0x9F else 0xBF⟩
  else if n < 0xF5 then
    some ⟨n - 0xF0, 3, if n = 0xF0 then 0x90 else 0x80, if n = 0xF4 then 0x8F else 0xBF⟩
  else none

/-- Reads the bytes that continue a character. The result holds the character, unless they are
not there, and what follows. -/
def continued (value : Nat) : Nat → Nat → Nat → List UInt8 → Option Char × List UInt8
  | 0, _, _, bs => (some (Char.ofNat value), bs)
  | _ + 1, _, _, [] => (none, [])
  | count + 1, low, high, b :: bs =>
    if low ≤ b.toNat ∧ b.toNat ≤ high then
      continued (value * 64 + b.toNat % 64) count 0x80 0xBF bs
    else (none, b :: bs)

/-- Reads one character. -/
def decodeChar (b : UInt8) (bs : List UInt8) : Option Char × List UInt8 :=
  match lead? b with
  | none => (none, bs)
  | some l => continued l.value l.count l.low l.high bs

/-- What is left after a character is not longer than what was there. -/
theorem length_continued_le (value count low high : Nat) (bs : List UInt8) :
    (continued value count low high bs).2.length ≤ bs.length := by
  induction count generalizing value low high bs with
  | zero => simp [continued]
  | succ count ih =>
    cases bs with
    | nil => simp [continued]
    | cons b bs =>
      simp only [continued]
      split
      · exact Nat.le_succ_of_le (ih ..)
      · simp

/-- What is left after a character is shorter than what was there. -/
theorem length_decodeChar_lt (b : UInt8) (bs : List UInt8) :
    (decodeChar b bs).2.length < (b :: bs).length := by
  unfold decodeChar
  split
  · simp
  · exact Nat.lt_succ_of_le (length_continued_le ..)

/-- Bytes as characters, with nothing in the place of a flaw. -/
def decodeEach (bs : List UInt8) : List (Option Char) :=
  match bs with
  | [] => []
  | b :: bs =>
    (decodeChar b bs).1 :: decodeEach (decodeChar b bs).2
  termination_by bs.length
  decreasing_by exact length_decodeChar_lt b bs

/-- The text of bytes, unless there is a flaw. -/
def decode? (bs : List UInt8) : Option (List Char) := (decodeEach bs).mapM id

/-- The mark that stands for a flaw. -/
def replacement : Char := Char.ofNat 0xFFFD

/-- The text of bytes, with a mark in the place of each flaw. -/
def decodeLossy (bs : List UInt8) : List Char :=
  (decodeEach bs).map fun c => c.getD replacement

end Text
end StatusRelay
