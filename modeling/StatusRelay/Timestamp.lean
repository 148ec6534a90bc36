/-
# Timestamps

A moment of UTC, to the nanosecond, from the beginning of year -262143 to the end of year 262142.
A leap second has the number of the second before it and a nanosecond part of a second or more. No
clock has one but after the 59th second of a minute; a moment that is put together from its parts
can have one after any second.

The written form is the one of RFC 3339: the year in four digits, or with a sign and at least
four digits when it is outside 0 … 9999; `T`; the time; a fraction of 3, 6 or 9 digits, the
fewest that are exact, and none at all when the second is whole; and `Z`. A leap second has the
number after that of its second: 60 at the end of a minute, and anywhere else that of the second
that follows.
-/

import StatusRelay.Calendar

namespace StatusRelay

/-- A moment of UTC. -/
structure Timestamp where
  /-- Days since 1970-01-01. -/
  day : Int
  /-- Seconds since midnight. -/
  second : Nat
  /-- Nanoseconds since that second began; a leap second counts on, after whichever second. -/
  nano : Nat
  day_ge : -96465292 ≤ day := by decide
  day_le : day ≤ 95026236 := by decide
  second_lt : second < 86400 := by decide
  nano_lt : nano < 2000000000 := by decide
  deriving DecidableEq, Repr

namespace Timestamp

/-- The first moment that can be written. -/
def firstDay : Int := -96465292

/-- The last day that has moments. -/
def lastDay : Int := 95026236

/-- The timestamp with these parts, if there is one. -/
def ofParts? (day : Int) (second nano : Nat) : Option Timestamp :=
  if h : (-96465292 ≤ day ∧ day ≤ 95026236) ∧ second < 86400 ∧ nano < 2000000000 then
    some ⟨day, second, nano, h.1.1, h.1.2, h.2.1, h.2.2⟩
  else none

instance : Inhabited Timestamp := ⟨⟨0, 0, 0, by decide, by decide, by decide, by decide⟩⟩

/-- The timestamp so many seconds and nanoseconds after the beginning of 1970. -/
def ofSeconds? (seconds : Int) (nano : Nat) : Option Timestamp :=
  ofParts? (seconds / 86400) (seconds % 86400).toNat nano

/-- The date of a timestamp. -/
def date (t : Timestamp) : Date := Date.ofDays t.day

/-- The local date and time of day at an offset from UTC, in seconds, as a timestamp. -/
def atOffset? (date : Date) (second nano : Nat) (offset : Int) : Option Timestamp :=
  if date.Valid ∧ firstDay ≤ date.toDays ∧ date.toDays ≤ lastDay ∧ -86400 < offset ∧
      offset < 86400 then
    let s := (second : Int) - offset
    ofParts? (date.toDays + s / 86400) (s % 86400).toNat nano
  else none

/-! ### Writing -/

/-- A number in decimal digits, with zeros in front up to a width. -/
def padded (width n : Nat) : List Char :=
  let ds := Nat.toDigits 10 n
  List.replicate (width - ds.length) '0' ++ ds

/-- A year in its written form. -/
def writeYear (y : Int) : List Char :=
  if 0 ≤ y ∧ y ≤ 9999 then padded 4 y.toNat
  else (if y < 0 then '-' else '+') :: padded 4 y.natAbs

/-- A date in its written form. -/
def writeDate (d : Date) : List Char :=
  writeYear d.year ++ '-' :: padded 2 d.month ++ '-' :: padded 2 d.day

/-- The time of day in whole seconds, a leap second being the second after its own. -/
def writeTime (t : Timestamp) : List Char :=
  padded 2 (t.second / 3600) ++ ':' :: padded 2 (t.second / 60 % 60) ++
    ':' :: padded 2 (t.second % 60 + t.nano / 1000000000)

/-- The fraction of the second, in the fewest groups of three digits. -/
def writeFraction (t : Timestamp) : List Char :=
  let n := t.nano % 1000000000
  if n = 0 then []
  else if n % 1000000 = 0 then '.' :: padded 3 (n / 1000000)
  else if n % 1000 = 0 then '.' :: padded 6 (n / 1000)
  else '.' :: padded 9 n

/-- The written form of a timestamp. -/
def write (t : Timestamp) : List Char :=
  writeDate t.date ++ 'T' :: writeTime t ++ writeFraction t ++ ['Z']

end Timestamp
end StatusRelay
