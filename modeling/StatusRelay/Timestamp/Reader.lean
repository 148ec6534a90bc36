/-
# Reading timestamps

Two readers of the notation of RFC 3339 and one of that of RFC 2822, built from the same pieces:
a number of so many digits, a fixed character, an offset from UTC.

The **relaxed** reader allows blanks before every number and before the separators, one or two
digits for every part but the year, a signed year of any length, `UTC` in any case for the
offset, and blanks and colons between its hours and minutes. The **strict** reader allows none
of that. Both take a space or a lower-case `t` for the `T` and the minus sign U+2212 in an
offset, and both read second 60 as a leap second wherever it stands.
-/

import StatusRelay.Text.Blank
import StatusRelay.Timestamp

namespace StatusRelay
namespace Timestamp

/-! ### The pieces -/

/-- The number that decimal digits denote. -/
def digitsValue (ds : List Char) : Nat := ds.foldl (fun n d => n * 10 + (d.toNat - 48)) 0

/-- A number of at least `least` and at most `most` digits. -/
def number (least most : Nat) (cs : List Char) : Option (Nat × List Char) :=
  let ds := (cs.take most).takeWhile Char.isDigit
  if least ≤ ds.length ∧ 0 < ds.length then some (digitsValue ds, cs.drop ds.length) else none

/-- A number of at least so many digits, however long. -/
def longNumber (least : Nat) (cs : List Char) : Option (Nat × List Char) :=
  number least cs.length cs

/-- The text after a fixed character. -/
def fixed (c : Char) : List Char → Option (List Char)
  | d :: r => if d = c then some r else none
  | [] => none

/-- The fraction of a second, in nanoseconds, when a point begins one. Digits after the ninth are
dropped. -/
def fraction (cs : List Char) : Option (Nat × List Char) :=
  match cs with
  | '.' :: r => do
    let ds := (r.take 9).takeWhile Char.isDigit
    if ds.isEmpty then none
    else return (digitsValue ds * Nat.pow 10 (9 - ds.length),
      (r.drop ds.length).dropWhile Char.isDigit)
  | _ => some (0, cs)

/-- Two decimal digits. -/
def twoDigits : List Char → Option (Nat × List Char)
  | a :: b :: r =>
    if a.isDigit ∧ b.isDigit then some ((a.toNat - 48) * 10 + (b.toNat - 48), r) else none
  | _ => none

/-- An offset from UTC in seconds: `Z`, or a sign, two digits of hours, what `between` skips, and
two digits of minutes. -/
def offset (between : List Char → Option (List Char)) (cs : List Char) :
    Option (Int × List Char) :=
  let signed (sign : Int) (cs : List Char) : Option (Int × List Char) := do
    let (h, cs) ← twoDigits cs
    let cs ← between cs
    let (m, cs) ← twoDigits cs
    if m ≤ 59 then return (sign * (h * 3600 + m * 60), cs) else none
  match cs with
  | c :: r =>
    if c = 'Z' ∨ c = 'z' then some (0, r)
    else if c = '+' then signed 1 r
    else if c = '-' ∨ c = '−' then signed (-1) r
    else none
  | [] => none

/-- The moment that the parts of a date and a time name. Second 60 is a leap second. -/
def ofClock? (year : Int) (month day hour minute second nano : Nat) (offset : Int) :
    Option Timestamp :=
  if hour ≤ 23 ∧ minute ≤ 59 ∧ second ≤ 60 then
    let (second, nano) := if second = 60 then (59, nano + 1000000000) else (second, nano)
    atOffset? ⟨year, month, day⟩ (hour * 3600 + minute * 60 + second) nano offset
  else none

/-! ### The relaxed reader -/

/-- A year: with a sign of any length, without one up to four digits. -/
def relaxedYear (cs : List Char) : Option (Int × List Char) :=
  match Text.trimLeft cs with
  | '-' :: r => do
    let (n, r) ← longNumber 1 r
    return (-(n : Int), r)
  | '+' :: r => do
    let (n, r) ← longNumber 1 r
    return ((n : Int), r)
  | r => do
    let (n, r) ← number 1 4 r
    return ((n : Int), r)

/-- One or two digits after any blanks. -/
def relaxedPart (cs : List Char) : Option (Nat × List Char) := number 1 2 (Text.trimLeft cs)

/-- A separator after any blanks. -/
def relaxedFixed (c : Char) (cs : List Char) : Option (List Char) := fixed c (Text.trimLeft cs)

/-- The name `UTC`, in any case. -/
def utcName : List Char → Option (List Char)
  | u :: t :: c :: r =>
    if u.toUpper = 'U' ∧ t.toUpper = 'T' ∧ c.toUpper = 'C' then some r else none
  | _ => none

/-- Blanks and colons, as many as there are. -/
def colonsAndBlanks (cs : List Char) : Option (List Char) :=
  some (cs.dropWhile fun c => c == ':' || Text.isBlank c)

/-- The moment that a text names in relaxed notation. -/
def readRelaxed (cs : List Char) : Option Timestamp := do
  let (year, cs) ← relaxedYear cs
  let cs ← relaxedFixed '-' cs
  let (month, cs) ← relaxedPart cs
  let cs ← relaxedFixed '-' cs
  let (day, cs) ← relaxedPart cs
  let cs ← match cs with
    | c :: r => if c = 'T' ∨ c = 't' ∨ c = ' ' then some r else none
    | [] => none
  let (hour, cs) ← relaxedPart cs
  let cs ← relaxedFixed ':' cs
  let (minute, cs) ← relaxedPart cs
  let cs ← relaxedFixed ':' cs
  let (second, cs) ← relaxedPart cs
  let (nano, cs) ← fraction cs
  let cs := Text.trimLeft cs
  let (shift, cs) ← match utcName cs with
    | some r => some (0, r)
    | none => offset colonsAndBlanks cs
  if (Text.trimLeft cs).isEmpty then ofClock? year month day hour minute second nano shift
  else none

/-! ### The strict reader -/

/-- The moment that a text names in the notation of RFC 3339. -/
def readStrict (cs : List Char) : Option Timestamp := do
  let (year, cs) ← number 4 4 cs
  let cs ← fixed '-' cs
  let (month, cs) ← twoDigits cs
  let cs ← fixed '-' cs
  let (day, cs) ← twoDigits cs
  let cs ← match cs with
    | c :: r => if c = 'T' ∨ c = 't' ∨ c = ' ' then some r else none
    | [] => none
  let (hour, cs) ← twoDigits cs
  let cs ← fixed ':' cs
  let (minute, cs) ← twoDigits cs
  let cs ← fixed ':' cs
  let (second, cs) ← twoDigits cs
  let (nano, cs) ← fraction cs
  let (shift, cs) ← offset (fixed ':') cs
  if cs.isEmpty then ofClock? year month day hour minute second nano shift else none

end Timestamp
end StatusRelay
