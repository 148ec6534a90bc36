/-
# Sets of code points

A set of code points is held as its maximal ranges in increasing order, and written as lines of
them in hexadecimal: `41-5a 5f 61-7a`. Membership is decided by halving the list of ranges.
-/

namespace StatusRelay
namespace Text

/-- A set of code points: disjoint ranges in increasing order. -/
structure CodeRanges where
  ranges : Array (Nat × Nat)

namespace CodeRanges

/-- The value of a hexadecimal digit in lower case. -/
def digitValue (c : Char) : Nat := if c.isDigit then c.toNat - 48 else c.toNat - 87

/-- The number that a text of hexadecimal digits denotes. -/
def hexNumber (s : List Char) : Nat := s.foldl (fun n c => n * 16 + digitValue c) 0

/-- The range that one word denotes. -/
def rangeOf (word : List Char) : Nat × Nat :=
  let low := hexNumber (word.takeWhile (· != '-'))
  match word.dropWhile (· != '-') with
  | [] => (low, low)
  | _ :: high => (low, hexNumber high)

/-- The set that lines of ranges denote. -/
def ofLines (lines : List String) : CodeRanges :=
  ⟨(lines.flatMap fun line => (line.toList.splitOn ' ').map rangeOf).toArray⟩

/-- Whether one of the ranges with an index from `low` up to `high` holds `n`. -/
def holds (rs : Array (Nat × Nat)) (n : Nat) : Nat → Nat → Nat → Bool
  | 0, _, _ => false
  | steps + 1, low, high =>
    if low < high then
      let middle := (low + high) / 2
      match rs[middle]? with
      | none => false
      | some (a, b) =>
        if n < a then holds rs n steps low middle
        else if b < n then holds rs n steps (middle + 1) high
        else true
    else false

/-- Whether a code point is in the set. -/
def contains (s : CodeRanges) (n : Nat) : Bool := holds s.ranges n 64 0 s.ranges.size

end CodeRanges
end Text
end StatusRelay
