/-
# Names in ASCII

A label with characters beyond ASCII is written as its ASCII characters, a hyphen, and letters and
digits that tell where the others belong. The others are taken in increasing order, and of each
only the distance from the one before is written, as a number to the base 36 whose digits have
varying weights.

| letter or digit | value |
| --- | --- |
| `a` … `z` | 0 … 25 |
| `0` … `9` | 26 … 35 |

A digit below the threshold of its place ends a number. The thresholds follow a bias, which adapts
to the size of the numbers so far.
-/

namespace StatusRelay.Url.Punycode

/-! ### Digits -/

/-- The digit with a value. -/
def digit (n : Nat) : Char := if n < 26 then Char.ofNat (97 + n) else Char.ofNat (22 + n)

/-- The value of a digit. -/
def digitValue? (c : Char) : Option Nat :=
  if c.isLower then some (c.toNat - 97)
  else if c.isUpper then some (c.toNat - 65)
  else if c.isDigit then some (c.toNat - 22)
  else none

/-- The threshold of a place, counted in steps of 36. -/
def threshold (place bias : Nat) : Nat := min 26 (max 1 (place - bias))

theorem one_le_threshold (place bias : Nat) : 1 ≤ threshold place bias := by
  unfold threshold; omega

/-! ### The bias -/

/-- Divides by 35 until a number is at most 455, and counts in steps of 36. -/
def shrink (delta count : Nat) : Nat × Nat :=
  if 455 < delta then shrink (delta / 35) (count + 36) else (delta, count)
termination_by delta
decreasing_by omega

/-- The bias after a number, which is one of so many. -/
def adapt (delta count : Nat) (isFirst : Bool) : Nat :=
  let delta := if isFirst then delta / 700 else delta / 2
  let (delta, steps) := shrink (delta + delta / count) 0
  steps + 36 * delta / (delta + 38)

/-! ### Writing -/

/-- The digits of a number from a place on. -/
def writeNumber (bias place n : Nat) : List Char :=
  let t := threshold place bias
  if n < t then [digit n]
  else digit (t + (n - t) % (36 - t)) :: writeNumber bias (place + 36) ((n - t) / (36 - t))
termination_by n
decreasing_by
  have := one_le_threshold place bias
  have := Nat.div_le_self (n - threshold place bias) (36 - threshold place bias)
  omega

/-- Where writing stands. -/
structure Writing where
  text : List Char
  /-- The number to be written next. -/
  delta : Nat
  bias : Nat
  /-- How many characters have been placed. -/
  placed : Nat

/-- Passes a character of a label when the characters with a code point are written. -/
def pass (ascii point : Nat) (w : Writing) (c : Char) : Writing :=
  if c.toNat < point then { w with delta := w.delta + 1 }
  else if c.toNat = point then
    { text := w.text ++ writeNumber w.bias 36 w.delta
      delta := 0
      bias := adapt w.delta (w.placed + 1) (w.placed = ascii)
      placed := w.placed + 1 }
  else w

/-- Writes the characters with code points, in increasing order, from one on. -/
def writePoints (label : List Char) (ascii : Nat) (w : Writing) : Nat → List Nat → Writing
  | _, [] => w
  | least, point :: points =>
    let w := { w with delta := w.delta + (point - least) * (w.placed + 1) }
    let w := label.foldl (pass ascii point) w
    writePoints label ascii { w with delta := w.delta + 1 } (point + 1) points

/-- A label in ASCII. -/
def encode (label : List Char) : List Char :=
  let ascii := label.filter fun c => c.toNat < 128
  let points := ((label.filter fun c => 128 ≤ c.toNat).map Char.toNat).mergeSort.eraseDups
  ascii ++ (if ascii.isEmpty then [] else ['-']) ++
    (writePoints label ascii.length ⟨[], 0, 72, ascii.length⟩ 128 points).text

/-! ### Reading -/

/-- The numbers that are read have 32 bits. -/
def wordLimit : Nat := Nat.pow 2 32

/-- The number at the beginning of a text, added to another, and the text after it. -/
def readNumber? (bias : Nat) : Nat → Nat → Nat → List Char → Option (Nat × List Char)
  | _, _, _, [] => none
  | place, weight, sum, c :: cs => do
    let value ← digitValue? c
    let sum := sum + value * weight
    let t := threshold place bias
    if wordLimit ≤ sum then none
    else if value < t then some (sum, cs)
    else if wordLimit ≤ weight * (36 - t) then none
    else readNumber? bias (place + 36) (weight * (36 - t)) sum cs

/-- Places the characters that a text tells of, each at least one digit long; `most` bounds their
number. -/
def place? (label : List Char) (point position bias : Nat) : Nat → List Char → Option (List Char)
  | _, [] => some label
  | 0, _ :: _ => none
  | most + 1, text => do
    let (sum, rest) ← readNumber? bias 36 1 position text
    let count := label.length + 1
    let point := point + sum / count
    if ¬ point.isValidChar then none
    else
      place? (label.insertIdx (sum % count) (Char.ofNat point)) point (sum % count + 1)
        (adapt (sum - position) count (position = 0)) most rest

/-- The label that a text in ASCII denotes. -/
def decode (text : List Char) : Option (List Char) :=
  let tail := (text.reverse.takeWhile (· != '-')).reverse
  let ascii := text.take (text.length - tail.length - 1)
  let tail := if ascii.isEmpty then text else tail
  place? ascii 128 0 72 tail.length tail

end StatusRelay.Url.Punycode
