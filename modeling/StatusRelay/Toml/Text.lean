/-
# Strings and names in TOML

A string is written in the first of five forms that can hold it as it is, or else with escapes.

| form | cannot hold as it is |
| --- | --- |
| `"…"` | controls, line breaks, backslashes, quotation marks |
| `'…'` | controls, line breaks, apostrophes |
| `\"\"\"…\"\"\"` | controls, backslashes, three quotation marks in a row |
| `'''…'''` | controls, three apostrophes in a row |
| with escapes | |

Controls are all below U+0020 but the line break, and U+007F. A string in a form over several lines
begins with a line break that is no part of it. With escapes a string with a line break is written
over several lines, and then only the third of three quotation marks in a row is escaped.

A name is written without quotes if it can be, or else like a string on one line.
-/

import StatusRelay.Toml.Reader

namespace StatusRelay.Toml

/-- Whether a character has to be escaped wherever it stands. -/
def isControl (c : Char) : Bool := (c.toNat < 0x20 && c != '\n') || c.toNat == 0x7F

/-- The length of the longest row of a character, given the length of the row that goes on. -/
def longestRow (mark : Char) (row : Nat) : List Char → Nat
  | [] => row
  | c :: cs => if c = mark then longestRow mark (row + 1) cs else max row (longestRow mark 0 cs)

/-- One hexadecimal digit, in upper case. -/
def hexDigit (n : Nat) : Char := if n < 10 then Char.ofNat (48 + n) else Char.ofNat (55 + n)

/-- A character that cannot stand as it is, in its escaped form. -/
def escaped (c : Char) : List Char :=
  if c.toNat = 8 then ['\\', 'b']
  else if c = '\t' then ['\\', 't']
  else if c = '\n' then ['\\', 'n']
  else if c.toNat = 12 then ['\\', 'f']
  else if c = '\r' then ['\\', 'r']
  else if c = '"' then ['\\', '"']
  else if c = '\\' then ['\\', '\\']
  else ['\\', 'u', '0', '0', hexDigit (c.toNat / 16), hexDigit (c.toNat % 16)]

/-- A text with escapes, on one line. -/
def escapeLine (cs : List Char) : List Char :=
  cs.flatMap fun c =>
    if isControl c ∨ c = '\n' ∨ c = '"' ∨ c = '\\' then escaped c else [c]

/-- A text with escapes, over several lines; `row` quotation marks stand before it. -/
def escapeLines (row : Nat) : List Char → List Char
  | [] => []
  | c :: cs =>
    if c = '"' then
      if row < 2 then c :: escapeLines (row + 1) cs else escaped c ++ escapeLines 0 cs
    else if isControl c ∨ c = '\\' then escaped c ++ escapeLines 0 cs
    else c :: escapeLines 0 cs

/-- A string in writing. -/
def writeString (cs : List Char) : List Char :=
  let controls := cs.any isControl
  let lines := cs.contains '\n'
  let backslash := cs.contains '\\'
  let quotes := longestRow '"' 0 cs
  let apostrophes := longestRow '\'' 0 cs
  let three (mark : Char) : List Char := [mark, mark, mark]
  if !controls && !lines && !backslash && quotes == 0 then '"' :: cs ++ ['"']
  else if !controls && !lines && apostrophes == 0 then '\'' :: cs ++ ['\'']
  else if !controls && !backslash && decide (quotes ≤ 2) then
    three '"' ++ '\n' :: cs ++ three '"'
  else if !controls && decide (apostrophes ≤ 2) then three '\'' ++ '\n' :: cs ++ three '\''
  else if lines then three '"' ++ '\n' :: escapeLines 0 cs ++ three '"'
  else '"' :: escapeLine cs ++ ['"']

/-- A name in writing. -/
def writeName (cs : List Char) : List Char :=
  let controls := cs.any isControl || cs.contains '\n'
  if !cs.isEmpty && cs.all isBare then cs
  else if !controls && !cs.contains '\\' && !cs.contains '"' then '"' :: cs ++ ['"']
  else if !controls && !cs.contains '\'' then '\'' :: cs ++ ['\'']
  else '"' :: escapeLine cs ++ ['"']

end StatusRelay.Toml
