/-
# Maps of code points

A map gives code points an image of one or more code points. It is held as rows in increasing
order, and written as lines of them in hexadecimal:

| word | meaning |
| --- | --- |
| `132:69.6a` | a code point with an image of two |
| `41-5a:61` | a range whose images are a range too, beginning with this one |
| `100-12e/2:101` | the same for every other code point of a range |

The row that holds a code point is found by halving.
-/

import StatusRelay.Text.CodeRanges

namespace StatusRelay
namespace Text

/-- A row of a map: code points from the first to the last in steps, and the image of the first.
The images of the others are as far from it as they are from the first. -/
structure CodeRow where
  first : Nat
  last : Nat
  step : Nat
  image : List Nat
  deriving DecidableEq, Repr, Inhabited

namespace CodeRow

/-- The row that a word denotes. -/
def ofWord (word : List Char) : CodeRow :=
  let source := word.takeWhile (· != ':')
  let image := (word.dropWhile (· != ':')).drop 1
  let range := source.takeWhile (· != '/')
  let (first, last) := CodeRanges.rangeOf range
  { first := first
    last := last
    step := if range.length < source.length then 2 else 1
    image := (image.splitOn '.').map CodeRanges.hexNumber }

/-- The image of a code point in the row. -/
def imageOf? (r : CodeRow) (n : Nat) : Option (List Nat) :=
  if n < r.first ∨ r.last < n ∨ (n - r.first) % r.step ≠ 0 then none
  else some (r.image.map (· + (n - r.first)))

end CodeRow

/-- A map of code points: rows in increasing order. -/
structure CodeMap where
  rows : Array CodeRow

namespace CodeMap

/-- The map that lines of words denote. -/
def ofLines (lines : List String) : CodeMap :=
  ⟨(lines.flatMap fun line => (line.toList.splitOn ' ').map CodeRow.ofWord).toArray⟩

/-- The row with an index from `low` up to `high` whose range holds `n`. -/
def find? (rows : Array CodeRow) (n : Nat) : Nat → Nat → Nat → Option CodeRow
  | 0, _, _ => none
  | steps + 1, low, high =>
    if low < high then
      let middle := (low + high) / 2
      match rows[middle]? with
      | none => none
      | some r =>
        if n < r.first then find? rows n steps low middle
        else if r.last < n then find? rows n steps (middle + 1) high
        else some r
    else none

/-- The image of a code point. -/
def image? (m : CodeMap) (n : Nat) : Option (List Nat) :=
  (find? m.rows n 64 0 m.rows.size).bind fun r => r.imageOf? n

end CodeMap
end Text
end StatusRelay
