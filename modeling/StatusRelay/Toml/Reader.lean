/-
# Reading TOML

A document is read line by line: blank lines, comments, headers, and entries. A value is a string
in one of four forms, a number, a moment, a truth value, an array, or a table on one line.

Two limits keep the depth finite: a name has fewer than eighty parts, and fewer than eighty arrays
and tables on one line enclose each other. An integer has 64 bits and a sign.
-/

import StatusRelay.Calendar
import StatusRelay.Json.Reader
import StatusRelay.Toml

namespace StatusRelay.Toml

/-- How deep things may be. -/
def depthLimit : Nat := 80

/-- Whether a character is blank within a line. -/
def isGap (c : Char) : Bool := c == ' ' || c == '\t'

/-- A text from its first character on that is not blank. -/
def skipGaps (cs : List Char) : List Char := cs.dropWhile isGap

/-- Whether a character can stand in a comment: all but controls, the tab being allowed. -/
def isPlain (c : Char) : Bool := c == '\t' || (0x20 ≤ c.toNat && c.toNat != 0x7F)

/-- The text after a line break. -/
def newline? : List Char → Option (List Char)
  | '\n' :: rest | '\r' :: '\n' :: rest => some rest
  | _ => none

/-- The text after a comment, if there is one. -/
def skipComment : List Char → List Char
  | '#' :: rest => rest.dropWhile isPlain
  | cs => cs

/-- The text after the end of a line, before which a comment may stand. -/
def endOfLine? (cs : List Char) : Option (List Char) :=
  match skipComment (skipGaps cs) with
  | [] => some []
  | cs => newline? cs

/-! ### Strings -/

/-- A text and what follows it. -/
abbrev Part := Option (List Char × List Char)

/-- The character that an escape stands for, and what follows. -/
def escape? : List Char → Option (Char × List Char)
  | 'b' :: rest => some (Char.ofNat 8, rest)
  | 't' :: rest => some ('\t', rest)
  | 'n' :: rest => some ('\n', rest)
  | 'f' :: rest => some (Char.ofNat 12, rest)
  | 'r' :: rest => some ('\r', rest)
  | '"' :: rest => some ('"', rest)
  | '\\' :: rest => some ('\\', rest)
  | 'u' :: rest => code 4 rest
  | 'U' :: rest => code 8 rest
  | _ => none
where
  /-- A character by its code point in so many hexadecimal digits. -/
  code (digits : Nat) (cs : List Char) : Option (Char × List Char) :=
    match (cs.take digits).mapM Json.hexValue? with
    | none => none
    | some ns =>
      let n := ns.foldl (fun n d => n * 16 + d) 0
      if ns.length = digits ∧ n.isValidChar then some (Char.ofNat n, cs.drop digits) else none

/-- What is left after a code point is not longer. -/
theorem length_code_le {digits : Nat} {cs rest : List Char} {c : Char}
    (h : escape?.code digits cs = some (c, rest)) : rest.length ≤ cs.length := by
  unfold escape?.code at h
  split at h
  · cases h
  · simp only [Option.ite_none_right_eq_some, Option.some.injEq, Prod.mk.injEq] at h
    rw [← h.2.2]
    simp

/-- What is left after an escape is shorter. -/
theorem length_escape?_lt {cs rest : List Char} {c : Char} (h : escape? cs = some (c, rest)) :
    rest.length < cs.length := by
  unfold escape? at h
  split at h
  case h_8 => exact Nat.lt_succ_of_le (length_code_le h)
  case h_9 => exact Nat.lt_succ_of_le (length_code_le h)
  case h_10 => cases h
  all_goals
    simp only [Option.some.injEq, Prod.mk.injEq] at h
    rw [← h.2]
    simp

/-- The rest of a string between quotation marks. -/
def basic (cs : List Char) : Part :=
  match cs with
  | [] => none
  | '"' :: rest => some ([], rest)
  | '\\' :: rest =>
    match h : escape? rest with
    | none => none
    | some (c, rest') =>
      have := length_escape?_lt h
      (basic rest').map fun (s, r) => (c :: s, r)
  | c :: rest => if isPlain c then (basic rest).map fun (s, r) => (c :: s, r) else none
  termination_by cs.length

/-- The rest of a string between apostrophes, in which nothing is escaped. -/
def literal : List Char → Part
  | [] => none
  | '\'' :: rest => some ([], rest)
  | c :: rest => if isPlain c then (literal rest).map fun (s, r) => (c :: s, r) else none

/-- The text after the blanks and line breaks that an escaped line break leads to. -/
def skipFold : List Char → List Char
  | '\n' :: rest | '\r' :: '\n' :: rest => skipFold rest
  | c :: rest => if isGap c then skipFold rest else c :: rest
  | [] => []

/-- The text after an escaped line break, of which the backslash has been read. -/
def fold? (cs : List Char) : Option (List Char) := (newline? (skipGaps cs)).map skipFold

/-- The marks at the end of a string over several lines: three of them, and before them up to two
that belong to the string. The result holds these and what follows. -/
def closing? (mark : Char) (cs : List Char) : Option (List Char × List Char) :=
  let marks := cs.takeWhile (· == mark)
  if 3 ≤ marks.length ∧ marks.length ≤ 5 then
    some (marks.drop 3, cs.drop marks.length)
  else none

/-- The rest of a string over several lines, `most` being more than its length. -/
def multiline (mark : Char) (escapes : Bool) (cs : List Char) : Nat → Part
  | 0 => none
  | most + 1 =>
    match cs with
    | [] => none
    | c :: rest =>
      let go (c : Char) (rest : List Char) : Part :=
        (multiline mark escapes rest most).map fun (s, r) => (c :: s, r)
      if c = mark then
        let marks := cs.takeWhile (· == mark)
        if marks.length < 3 then
          (multiline mark escapes (cs.drop marks.length) most).map fun (s, r) => (marks ++ s, r)
        else closing? mark cs
      else if c = '\\' ∧ escapes then
        match fold? rest with
        | some rest => multiline mark escapes rest most
        | none => do
          let (c, rest) ← escape? rest
          go c rest
      else match newline? cs with
        | some rest => go '\n' rest
        | none => if isPlain c then go c rest else none

/-- A string over several lines, after its opening marks. A line break there is no part of it. -/
def multilineBody (mark : Char) (escapes : Bool) (cs : List Char) : Part :=
  let cs := (newline? cs).getD cs
  multiline mark escapes cs (cs.length + 1)

/-- A string in one of its four forms. -/
def string? : List Char → Part
  | '"' :: '"' :: '"' :: rest => multilineBody '"' true rest
  | '"' :: rest => basic rest
  | '\'' :: '\'' :: '\'' :: rest => multilineBody '\'' false rest
  | '\'' :: rest => literal rest
  | _ => none

/-! ### Names -/

/-- Whether a character can stand in a name without quotes. -/
def isBare (c : Char) : Bool := c.isAlphanum || c == '-' || c == '_'

/-- One part of a name. -/
def simpleName : List Char → Part
  | '"' :: rest => basic rest
  | '\'' :: rest => literal rest
  | cs => if (cs.takeWhile isBare).isEmpty then none
    else some (cs.takeWhile isBare, cs.dropWhile isBare)

/-- The parts of a name with points, `most` being more than their number. -/
def names (cs : List Char) : Nat → Option (List String × List Char)
  | 0 => none
  | most + 1 => do
    let (s, rest) ← simpleName (skipGaps cs)
    match skipGaps rest with
    | '.' :: rest => do
      let (ss, rest) ← names rest most
      return (String.ofList s :: ss, rest)
    | rest => return ([String.ofList s], rest)

/-- A name with points: the path and the last part. -/
def name? (cs : List Char) : Option ((List String × String) × List Char) := do
  let (parts, rest) ← names cs (cs.length + 1)
  if parts.length < depthLimit then return ((parts.dropLast, parts.getLastD ""), rest) else none

/-! ### Numbers -/

/-- Digits with single underscores between them; the result holds the digits alone. -/
def digits (isDigit : Char → Bool) : List Char → Part
  | [] => none
  | [c] => if isDigit c then some ([c], []) else none
  | c :: '_' :: rest =>
    if isDigit c then (digits isDigit rest).map fun (ds, r) => (c :: ds, r) else none
  | c :: d :: rest =>
    if isDigit c then
      if isDigit d then (digits isDigit (d :: rest)).map fun (ds, r) => (c :: ds, r)
      else some ([c], d :: rest)
    else none

/-- A sign, if there is one: whether it is a minus. -/
def sign : List Char → Bool × List Char
  | '-' :: rest => (true, rest)
  | '+' :: rest => (false, rest)
  | cs => (false, cs)

/-- The digits of a decimal integer: a zero alone, or digits that do not begin with one. -/
def whole : List Char → Part
  | '0' :: rest => some (['0'], rest)
  | cs => digits Char.isDigit cs

/-- An exponent, if there is one. -/
def exponent : List Char → Option (Option (Bool × List Char) × List Char)
  | c :: rest =>
    if c = 'e' ∨ c = 'E' then do
      let (down, rest) := sign rest
      let (ds, rest) ← digits Char.isDigit rest
      return (some (down, ds), rest)
    else some (none, c :: rest)
  | [] => some (none, [])

/-- A number with a fraction or an exponent, or one of the names of those that are none. -/
def float? (cs : List Char) : Option (Toml × List Char) :=
  let (negative, rest) := sign cs
  match rest with
  | 'i' :: 'n' :: 'f' :: rest => some (.float "inf", rest)
  | 'n' :: 'a' :: 'n' :: rest => some (.float "nan", rest)
  | _ => do
    let (ds, rest) ← whole rest
    let (fraction, rest) ← match rest with
      | '.' :: rest => digits Char.isDigit rest
      | rest => some ([], rest)
    let (power, rest) ← exponent rest
    let n : Json.Numeral := ⟨negative, ds, fraction, power⟩
    if (fraction.isEmpty ∧ power.isNone) ∨ (n.overflows ∧ !negative) then none
    else match n.toJson with
      | .decimal text => some (.float text, rest)
      | _ => none

/-- The value of an integer, if it has 64 bits. -/
def integerOf? (negative : Bool) (base : Nat) (ds : List Char) : Option Toml := do
  let n ← (ds.mapM Json.hexValue?).map (·.foldl (fun n d => n * base + d) 0)
  let n : Int := if negative then -n else n
  if -Nat.pow 2 63 ≤ n ∧ n < Nat.pow 2 63 then some (.int n) else none

/-- An integer. -/
def integer? (cs : List Char) : Option (Toml × List Char) :=
  let inBase (base : Nat) (isDigit : Char → Bool) (cs : List Char) : Option (Toml × List Char) := do
    let (ds, rest) ← digits isDigit cs
    return (← integerOf? false base ds, rest)
  match cs with
  | '0' :: 'x' :: rest => inBase 16 (fun c => (Json.hexValue? c).isSome) rest
  | '0' :: 'o' :: rest => inBase 8 (fun c => '0' ≤ c && c ≤ '7') rest
  | '0' :: 'b' :: rest => inBase 2 (fun c => c == '0' || c == '1') rest
  | _ => do
    let (negative, rest) := sign cs
    let (ds, rest) ← whole rest
    return (← integerOf? negative 10 ds, rest)

/-! ### Moments -/

/-- A number in so many decimal digits. -/
def fixed (count : Nat) (cs : List Char) : Option (Nat × List Char) :=
  let ds := cs.take count
  if ds.length = count ∧ ds.all Char.isDigit then
    some (Json.Numeral.digitsValue ds, cs.drop count)
  else none

/-- A number in two decimal digits that is at most a limit. -/
def twoDigits (limit : Nat) (cs : List Char) : Option (Nat × List Char) := do
  let (n, rest) ← fixed 2 cs
  if n ≤ limit then some (n, rest) else none

/-- The text after a character. -/
def after (c : Char) : List Char → Option (List Char)
  | d :: rest => if d = c then some rest else none
  | [] => none

/-- A date; the result holds its text. -/
def date? (cs : List Char) : Part := do
  let (year, rest) ← fixed 4 cs
  let rest ← after '-' rest
  let (month, rest) ← fixed 2 rest
  let rest ← after '-' rest
  let (day, rest) ← fixed 2 rest
  if (⟨year, month, day⟩ : Date).Valid then some (cs.take 10, rest) else none

/-- A time of day; the result holds its text, with at most nine places of a second and no zeros at
their end. -/
def time? (cs : List Char) : Part := do
  let (_, rest) ← twoDigits 23 cs
  let rest ← after ':' rest
  let (_, rest) ← twoDigits 59 rest
  let rest ← after ':' rest
  let (_, rest) ← twoDigits 60 rest
  match rest with
  | '.' :: c :: more =>
    if c.isDigit then
      let places := (c :: more).takeWhile Char.isDigit
      let shown := ((places.take 9).reverse.dropWhile (· == '0')).reverse
      some (cs.take 8 ++ (if shown.isEmpty then [] else '.' :: shown),
        (c :: more).dropWhile Char.isDigit)
    else some (cs.take 8, rest)
  | _ => some (cs.take 8, rest)

/-- A distance from universal time; the result holds its text. -/
def offset? (cs : List Char) : Part :=
  match cs with
  | 'Z' :: rest | 'z' :: rest => some (['Z'], rest)
  | c :: rest =>
    if c = '+' ∨ c = '-' then do
      let (_, more) ← twoDigits 23 rest
      let more ← after ':' more
      let (_, more) ← twoDigits 59 more
      some (cs.take 6, more)
    else none
  | [] => none

/-- A date, a time of day, or both, with or without a distance from universal time; the result
holds its text. -/
def momentText? (cs : List Char) : Part :=
  match date? cs with
  | none => time? cs
  | some (d, rest) =>
    match rest with
    | [] => some (d, [])
    | c :: more =>
      if c = 'T' ∨ c = 't' ∨ c = ' ' then
        match time? more with
        | none => some (d, rest)
        | some (t, rest) =>
          match offset? rest with
          | none => some (d ++ 'T' :: t, rest)
          | some (o, rest) => some (d ++ 'T' :: t ++ o, rest)
      else some (d, rest)

/-- A moment. -/
def moment? (cs : List Char) : Option (Toml × List Char) :=
  (momentText? cs).map fun (text, rest) => (.moment (String.ofList text), rest)

/-! ### Values -/

/-- The text after blanks, line breaks and comments. -/
def skipLines (cs : List Char) : Nat → List Char
  | 0 => cs
  | most + 1 =>
    match skipComment (skipGaps cs) with
    | '\n' :: rest | '\r' :: '\n' :: rest => skipLines rest most
    | rest => rest

/-- The text after blanks, line breaks and comments between the items of an array. -/
def skipBetween (cs : List Char) : List Char := skipLines cs (cs.length + 1)

mutual

/-- A value, `most` being more than twice the length of the text, inside so many arrays and tables
on one line. -/
def value? (depth : Nat) (cs : List Char) : Nat → Option (Toml × List Char)
  | 0 => none
  | most + 1 =>
    match cs with
    | [] => none
    | c :: rest =>
      if c = '"' ∨ c = '\'' then (string? cs).map fun (s, r) => (.str (String.ofList s), r)
      else if c = '[' then
        if depth + 1 < depthLimit then
          (items? (depth + 1) (skipBetween rest) most).map fun (ts, r) => (.arr ts, r)
        else none
      else if c = '\x7b' then
        if depth + 1 < depthLimit then
          match skipGaps rest with
          | '\x7d' :: rest => some (.table [], rest)
          | rest => (entries? (depth + 1) [] rest most).map fun (es, r) =>
            (.table (tomlEntries es), r)
        else none
      else if c = 't' then
        if rest.take 3 = "rue".toList then some (.bool true, rest.drop 3) else none
      else if c = 'f' then
        if rest.take 4 = "alse".toList then some (.bool false, rest.drop 4) else none
      else ((moment? cs).or (float? cs)).or (integer? cs)

/-- The items of an array up to its end. -/
def items? (depth : Nat) (cs : List Char) : Nat → Option (List Toml × List Char)
  | 0 => none
  | most + 1 =>
    match cs with
    | ']' :: rest => some ([], rest)
    | _ => do
      let (t, rest) ← value? depth cs most
      match skipBetween rest with
      | ',' :: rest => do
        let (ts, rest) ← items? depth (skipBetween rest) most
        return (t :: ts, rest)
      | ']' :: rest => return ([t], rest)
      | _ => none

/-- The entries of a table on one line up to its end. -/
def entries? (depth : Nat) (es : Entries) (cs : List Char) : Nat → Option (Entries × List Char)
  | 0 => none
  | most + 1 => do
    let ((path, name), rest) ← name? cs
    let rest ← after '=' rest
    let (v, rest) ← value? depth (skipGaps rest) most
    let es ← es.add path name v
    match skipGaps rest with
    | ',' :: rest => entries? depth es rest most
    | '\x7d' :: rest => return (es, rest)
    | _ => none

end

/-! ### Documents -/

/-- An entry on a line of its own. -/
def entry? (cs : List Char) : Option ((List String × String × Toml) × List Char) := do
  let ((path, name), rest) ← name? cs
  let rest ← after '=' rest
  let rest := skipGaps rest
  let (v, rest) ← value? 0 rest (2 * rest.length + 1)
  return ((path, name, v), ← endOfLine? rest)

/-- A header: whether it has two brackets, and its name. -/
def header? (cs : List Char) : Option ((Bool × List String × String) × List Char) :=
  match cs with
  | '[' :: '[' :: rest => do
    let (name, rest) ← name? rest
    let rest ← after ']' (← after ']' rest)
    return ((true, name), ← endOfLine? rest)
  | '[' :: rest => do
    let (name, rest) ← name? rest
    return ((false, name), ← endOfLine? (← after ']' rest))
  | _ => none

/-- The lines of a document, `most` being more than their number, under a header given by its
path. -/
def lines? (header : List String) (es : Entries) (cs : List Char) : Nat → Option Entries
  | 0 => none
  | most + 1 =>
    match skipGaps cs with
    | [] => some es
    | '#' :: rest => do lines? header es (← endOfLine? ('#' :: rest)) most
    | '\n' :: rest | '\r' :: '\n' :: rest => lines? header es rest most
    | '[' :: rest => do
      let ((several, path, name), rest) ← header? ('[' :: rest)
      let es ← if several then es.append path name else es.define path name
      lines? (path ++ [name]) es rest most
    | rest => do
      let ((path, name, v), rest) ← entry? rest
      lines? header (← es.addUnder header path name v) rest most

/-- The document that a text denotes, as a table. A mark of the byte order may stand before it. -/
def read? (text : List Char) : Option Toml :=
  let text := match text with
    | c :: rest => if c.toNat = 0xFEFF then rest else text
    | [] => []
  (lines? [] [] text (text.length + 1)).map fun es => .table (tomlEntries es)

end StatusRelay.Toml
