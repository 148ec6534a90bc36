/-
# Percent encoding

In an address a byte can be written as a percent sign and two hexadecimal digits. A percent sign
that is not followed by two such digits stands for itself, and what is encoded already is not
encoded again.

Controls and everything beyond ASCII are always encoded. Beyond these it depends on the place:

| place | also encoded |
| --- | --- |
| path | space, quote, `#`, `<`, `>`, `?`, backquote, braces |
| query | space, quote, `#`, `<`, `>`, apostrophe |
-/

import StatusRelay.Text.Utf8
import StatusRelay.Url.Address

namespace StatusRelay.Url

/-- The bytes that a text stands for. -/
def percentDecode : List Char → List UInt8
  | [] => []
  | '%' :: a :: b :: rest =>
    match digit? 16 a, digit? 16 b with
    | some m, some n => UInt8.ofNat (m * 16 + n) :: percentDecode rest
    | _, _ => Text.encodeChar '%' ++ percentDecode (a :: b :: rest)
  | c :: rest => Text.encodeChar c ++ percentDecode rest

/-- One hexadecimal digit, in upper case. -/
def hexDigit (n : Nat) : Char := if n < 10 then Char.ofNat (48 + n) else Char.ofNat (55 + n)

/-- A byte in its encoded form. -/
def percentByte (b : UInt8) : List Char := ['%', hexDigit (b.toNat / 16), hexDigit (b.toNat % 16)]

/-- A text in which controls, characters beyond ASCII and some others are encoded. -/
def percentEncode (others : List Char) (cs : List Char) : List Char :=
  cs.flatMap fun c =>
    if c.toNat < 0x20 ∨ 0x7E < c.toNat ∨ others.contains c then
      (Text.encodeChar c).flatMap percentByte
    else [c]

/-- What is encoded in a path, too. -/
def pathEncoded : List Char := [' ', '"', '#', '<', '>', '?', '\x60', '\x7b', '\x7d']

/-- What is encoded in a query, too. -/
def queryEncoded : List Char := [' ', '"', '#', '<', '>', '\'']

end StatusRelay.Url
