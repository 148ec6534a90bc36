/-
# Bytes read back as text

A character reads back from its bytes whatever bytes follow: the leading byte tells how many more
there are, and each of these holds six bits of the code point. So a text reads back from its bytes
with no flaw.

What makes the first byte after the leading one admissible:

| leading byte | lowest code point | highest code point |
| --- | --- | --- |
| e0 | U+0800 | |
| ed | | U+D7FF, below the surrogates |
| f0 | U+10000 | |
| f4 | | U+10FFFF |
-/

import StatusRelay.Text.Utf8
import Mathlib.Algebra.GroupWithZero.Nat

namespace StatusRelay
namespace Text

variable {n : Nat} {bs : List UInt8}

theorem toNat_byte (h : n < 256) : (UInt8.ofNat n).toNat = n := UInt8.toNat_ofNat_of_lt' h

/-- A code point is none of the surrogates. -/
theorem codePoint_range (c : Char) :
    c.toNat < 0xD800 ∨ 0xDFFF < c.toNat ∧ c.toNat < 0x110000 := c.valid

/-- A byte that continues a character adds six bits. -/
theorem continued_byte {value count low high : Nat} (hlow : low ≤ n) (hhigh : n ≤ high)
    (h : n < 256) : continued value (count + 1) low high (UInt8.ofNat n :: bs) =
      continued (value * 64 + n % 64) count 0x80 0xBF bs := by
  rw [continued, toNat_byte h, if_pos ⟨hlow, hhigh⟩]

theorem decodeEach_cons {b : UInt8} {c : Char} {rest : List UInt8}
    (h : decodeChar b bs = (some (Char.ofNat c.toNat), rest)) :
    decodeEach (b :: bs) = some c :: decodeEach rest := by
  rw [decodeEach, h, Char.ofNat_toNat]

/-! ### Leading bytes -/

theorem lead?_one (h : n < 0x80) : lead? (UInt8.ofNat n) = some ⟨n, 0, 0, 0⟩ := by
  simp only [lead?, toNat_byte (show n < 256 by omega), if_pos h]

theorem lead?_two (hlow : 2 ≤ n) (hhigh : n < 0x20) :
    lead? (UInt8.ofNat (0xC0 + n)) = some ⟨n, 1, 0x80, 0xBF⟩ := by
  simp only [lead?, toNat_byte (show 0xC0 + n < 256 by omega)]
  rw [if_neg (by omega), if_neg (by omega), if_pos (by omega), Nat.add_sub_cancel_left]

theorem lead?_three (h : n < 0x10) :
    lead? (UInt8.ofNat (0xE0 + n)) =
      some ⟨n, 2, if n = 0 then 0xA0 else 0x80, if n = 0xD then 0x9F else 0xBF⟩ := by
  simp only [lead?, toNat_byte (show 0xE0 + n < 256 by omega)]
  rw [if_neg (by omega), if_neg (by omega), if_neg (by omega), if_pos (by omega),
    Nat.add_sub_cancel_left]
  have hfirst : 0xE0 + n = 0xE0 ↔ n = 0 := by omega
  have hlast : 0xE0 + n = 0xED ↔ n = 0xD := by omega
  simp only [hfirst, hlast]

theorem lead?_four (h : n < 5) :
    lead? (UInt8.ofNat (0xF0 + n)) =
      some ⟨n, 3, if n = 0 then 0x90 else 0x80, if n = 4 then 0x8F else 0xBF⟩ := by
  simp only [lead?, toNat_byte (show 0xF0 + n < 256 by omega)]
  rw [if_neg (by omega), if_neg (by omega), if_neg (by omega), if_neg (by omega),
    if_pos (by omega), Nat.add_sub_cancel_left]
  have hfirst : 0xF0 + n = 0xF0 ↔ n = 0 := by omega
  have hlast : 0xF0 + n = 0xF4 ↔ n = 4 := by omega
  simp only [hfirst, hlast]

/-! ### Characters and texts -/

theorem decodeChar_one (h : n < 0x80) :
    decodeChar (UInt8.ofNat n) bs = (some (Char.ofNat n), bs) := by
  rw [decodeChar, lead?_one h]
  rfl

theorem decodeChar_two (hlow : 0x80 ≤ n) (hhigh : n < 0x800) :
    decodeChar (UInt8.ofNat (0xC0 + n / 64)) (UInt8.ofNat (0x80 + n % 64) :: bs) =
      (some (Char.ofNat n), bs) := by
  have hvalue : n / 64 * 64 + (0x80 + n % 64) % 64 = n := by omega
  rw [decodeChar, lead?_two (by omega) (by omega)]
  simp only
  rw [continued_byte (by omega) (by omega) (by omega), hvalue, continued]

theorem decodeChar_three (hlow : 0x800 ≤ n) (hhigh : n < 0x10000)
    (hrange : n < 0xD800 ∨ 0xDFFF < n) :
    decodeChar (UInt8.ofNat (0xE0 + n / 4096))
        (UInt8.ofNat (0x80 + n / 64 % 64) :: UInt8.ofNat (0x80 + n % 64) :: bs) =
      (some (Char.ofNat n), bs) := by
  have hvalue : (n / 4096 * 64 + (0x80 + n / 64 % 64) % 64) * 64 + (0x80 + n % 64) % 64 = n := by
    omega
  have hfirst : (if n / 4096 = 0 then 0xA0 else 0x80) ≤ 0x80 + n / 64 % 64 := by
    split <;> omega
  have hlast : 0x80 + n / 64 % 64 ≤ if n / 4096 = 0xD then 0x9F else 0xBF := by
    split <;> omega
  rw [decodeChar, lead?_three (by omega)]
  simp only
  rw [continued_byte hfirst hlast (by omega), continued_byte (by omega) (by omega) (by omega),
    hvalue, continued]

theorem decodeChar_four (hlow : 0x10000 ≤ n) (hhigh : n < 0x110000) :
    decodeChar (UInt8.ofNat (0xF0 + n / 262144)) (UInt8.ofNat (0x80 + n / 4096 % 64) ::
        UInt8.ofNat (0x80 + n / 64 % 64) :: UInt8.ofNat (0x80 + n % 64) :: bs) =
      (some (Char.ofNat n), bs) := by
  have hvalue : ((n / 262144 * 64 + (0x80 + n / 4096 % 64) % 64) * 64 +
      (0x80 + n / 64 % 64) % 64) * 64 + (0x80 + n % 64) % 64 = n := by
    omega
  have hfirst : (if n / 262144 = 0 then 0x90 else 0x80) ≤ 0x80 + n / 4096 % 64 := by
    split <;> omega
  have hlast : 0x80 + n / 4096 % 64 ≤ if n / 262144 = 4 then 0x8F else 0xBF := by
    split <;> omega
  rw [decodeChar, lead?_four (by omega)]
  simp only
  rw [continued_byte hfirst hlast (by omega), continued_byte (by omega) (by omega) (by omega),
    continued_byte (by omega) (by omega) (by omega), hvalue, continued]

/-- **A character reads back** from its bytes, whatever follows. -/
theorem decodeEach_encodeChar (c : Char) (bs : List UInt8) :
    decodeEach (encodeChar c ++ bs) = some c :: decodeEach bs := by
  have hrange := codePoint_range c
  simp only [encodeChar, Nat.pow_eq, Nat.pow_zero, Nat.div_one, Nat.reducePow]
  split
  case isTrue h1 => exact decodeEach_cons (decodeChar_one h1)
  case isFalse h1 =>
    split
    case isTrue h2 => exact decodeEach_cons (decodeChar_two (by omega) h2)
    case isFalse h2 =>
      split
      case isTrue h3 => exact decodeEach_cons (decodeChar_three (by omega) h3 (by omega))
      case isFalse h3 => exact decodeEach_cons (decodeChar_four (by omega) (by omega))

theorem decodeEach_encode (cs : List Char) : decodeEach (encode cs) = cs.map some := by
  induction cs with
  | nil => rw [encode, List.flatMap_nil, decodeEach, List.map_nil]
  | cons c cs ih =>
    rw [encode, List.flatMap_cons, decodeEach_encodeChar, ← encode, ih, List.map_cons]

/-- **A text reads back** from its bytes. -/
theorem decode?_encode (cs : List Char) : decode? (encode cs) = some cs := by
  rw [decode?, decodeEach_encode]
  induction cs with
  | nil => rfl
  | cons c cs ih => rw [List.map_cons, List.mapM_cons, ih]; rfl

end Text
end StatusRelay
