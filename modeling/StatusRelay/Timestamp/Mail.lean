/-
# Timestamps in mail

The notation of RFC 2822: perhaps the day of the week and a comma; day, month and year; the time,
perhaps with seconds; the zone; perhaps comments in parentheses. `Tue, 10 Jun 2025 14:03:09 +0200`
is one. Names are read in any case, and blanks may stand between the parts.

| year in | stands for |
| --- | --- |
| two digits up to 49 | that many years after 2000 |
| two digits from 50, three digits | that many years after 1900 |
| four digits or more | itself |

A zone is a sign with hours and minutes, or one of the names below; a military letter says nothing,
and stands for UTC. A day of the week that does not belong to the date makes the whole unreadable.
-/

import StatusRelay.Timestamp.Reader

namespace StatusRelay
namespace Timestamp
namespace Mail

/-- The days of the week from Monday on, by their first three letters. -/
def weekdays : List String := ["mon", "tue", "wed", "thu", "fri", "sat", "sun"]

/-- The months, by their first three letters. -/
def months : List String :=
  ["jan", "feb", "mar", "apr", "may", "jun", "jul", "aug", "sep", "oct", "nov", "dec"]

/-- Zones with a name, and their hours from UTC. -/
def zones : List (String × Int) :=
  [("gmt", 0), ("ut", 0), ("z", 0), ("edt", -4), ("est", -5), ("cdt", -5), ("cst", -6),
    ("mdt", -6), ("mst", -7), ("pdt", -7), ("pst", -8)]

/-- The position of a name of three letters in a list, and what follows it. -/
def named? (names : List String) (cs : List Char) : Option (Nat × List Char) :=
  let name := String.ofList ((cs.take 3).map Char.toLower)
  (names.findIdx? fun n => n == name).map fun k => (k, cs.drop 3)

/-- The day of the week of a date, counted from Monday. -/
def weekday (d : Date) : Nat := ((d.toDays + 3) % 7).toNat

/-- The text after blanks, of which there must be one. -/
def blanks (cs : List Char) : Option (List Char) :=
  match cs with
  | c :: _ => if Text.isBlank c then some (Text.trimLeft cs) else none
  | [] => none

/-- The year that a number of so many digits stands for. -/
def fullYear (digits n : Nat) : Nat :=
  if digits = 2 then (if n < 50 then n + 2000 else n + 1900)
  else if digits = 3 then n + 1900
  else n

/-- The offset of a zone from UTC in seconds, and what follows it. -/
def zone (cs : List Char) : Option (Int × List Char) :=
  let name := cs.takeWhile Char.isAlpha
  let rest := cs.dropWhile Char.isAlpha
  match name with
  | [] =>
    match cs with
    | c :: _ => if c = '+' ∨ c = '-' then offset some cs else none
    | [] => none
  | _ =>
    let lower := String.ofList (name.map Char.toLower)
    match zones.find? fun z => z.1 == lower with
    | some z => some (z.2 * 3600, rest)
    | none => if name.length = 1 ∧ lower ≠ "j" then some (0, rest) else none

/-- The text after the end of a comment, which may hold others. -/
def commentEnd (depth : Nat) : List Char → Option (List Char)
  | [] => none
  | '\\' :: _ :: rest => commentEnd depth rest
  | c :: rest =>
    if c = '(' then commentEnd (depth + 1) rest
    else if c = ')' then
      match depth with
      | 0 => some rest
      | depth + 1 => commentEnd depth rest
    else commentEnd depth rest

/-- Whether a text holds comments only. `fuel` is at least its length. -/
def areComments (fuel : Nat) (cs : List Char) : Bool :=
  match fuel with
  | 0 => cs.isEmpty
  | fuel + 1 =>
    match Text.trimLeft cs with
    | '(' :: rest =>
      match commentEnd 0 rest with
      | some rest => areComments fuel rest
      | none => false
    | _ => cs.isEmpty

/-- The day of the week before a date, where there is one, and what follows its comma. -/
def leadingWeekday (cs : List Char) : Option (Option Nat × List Char) :=
  match named? weekdays cs with
  | none => some (none, cs)
  | some (w, ',' :: rest) => some (some w, rest)
  | some _ => none

/-- The second after a colon, where there is one. -/
def secondPart (cs : List Char) : Option (Nat × List Char) :=
  match Text.trimLeft cs with
  | ':' :: rest => number 2 2 rest
  | _ => some (0, cs)

/-- The moment that a text names. -/
def read (cs : List Char) : Option Timestamp := do
  let (day?, cs) ← leadingWeekday (Text.trimLeft cs)
  let (day, cs) ← number 1 2 (Text.trimLeft cs)
  let (month, cs) ← named? months (← blanks cs)
  let cs ← blanks cs
  let (year, rest) ← longNumber 2 cs
  let year := fullYear (cs.length - rest.length) year
  let (hour, cs) ← number 2 2 (← blanks rest)
  let cs ← fixed ':' (Text.trimLeft cs)
  let (minute, cs) ← number 2 2 (Text.trimLeft cs)
  let (second, cs) ← secondPart cs
  let (shift, cs) ← zone (← blanks cs)
  let date : Date := ⟨year, month + 1, day⟩
  if areComments cs.length cs ∧ day?.all (· == weekday date) then
    ofClock? year (month + 1) day hour minute second 0 shift
  else none

end Mail
end Timestamp
end StatusRelay
