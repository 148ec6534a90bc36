/-
# Moments in feeds

A feed should give a moment in the notation of RFC 3339 or in that of mail, and often gives one
that is almost so. A text is read without the blanks around it: first as RFC 3339, where a date
alone is its midnight and the colon in the offset may be missing; then as mail, after these have
been put right.

| found | read as |
| --- | --- |
| `UTC`, or `-0000` at the end | `+0000` |
| any word and a comma at the front | nothing |
| the full name of a month | its first three letters |
| the hour 24 | the hour 00 |
| an hour of one digit | the hour with a zero in front |
-/

import StatusRelay.Timestamp.Mail

namespace StatusRelay
namespace Feed

/-- A text with the first occurrence of a part replaced. -/
def replaceFirst (old new : List Char) : List Char → List Char
  | [] => []
  | c :: cs =>
    match old.isPrefixOf? (c :: cs) with
    | some rest => new ++ rest
    | none => c :: replaceFirst old new cs

/-- A text in which a colon stands in the offset at its end. -/
def withColon (cs : List Char) : List Char :=
  match cs.reverse with
  | d :: c :: b :: a :: sign :: rest =>
    if [a, b, c, d].all Char.isDigit ∧ (sign = '+' ∨ sign = '-') then
      (d :: c :: ':' :: b :: a :: sign :: rest).reverse
    else cs
  | _ => cs

/-- Whether a text is a date alone. -/
def isDate (cs : List Char) : Bool :=
  match cs with
  | [a, b, c, d, '-', e, f, '-', g, h] => [a, b, c, d, e, f, g, h].all Char.isDigit
  | _ => false

/-- The moment that a text names in the notation of RFC 3339, or almost. -/
def readStandard (cs : List Char) : Option Timestamp :=
  Timestamp.readStrict (if isDate cs then cs ++ "T00:00:00Z".toList else withColon cs)

/-- The full names of the months. -/
def monthNames : List String :=
  ["January", "February", "March", "April", "May", "June", "July", "August", "September",
    "October", "November", "December"]

/-- A text in which the zone that is written `UTC` or `-0000` is a number. -/
def numberZone (cs : List Char) : List Char :=
  let zoned := replaceFirst "UTC".toList "+0000".toList cs
  if zoned ≠ cs then zoned
  else
    match "0000-".toList.isPrefixOf? cs.reverse with
    | some rest => rest.reverse ++ "+0000".toList
    | none => cs

/-- A text without a word and a comma at its front. -/
def dropWeekday (cs : List Char) : List Char :=
  let isWord (c : Char) : Bool :=
    c.isAlphanum || c == '_' || (128 ≤ c.toNat && !Text.isBlank c)
  match cs.takeWhile isWord, cs.dropWhile isWord with
  | _ :: _, ',' :: ' ' :: rest => rest
  | _, _ => cs

/-- A text in which every month goes by its first three letters. -/
def shortenMonths (cs : List Char) : List Char :=
  monthNames.foldl (fun cs name => replaceFirst name.toList (name.toList.take 3) cs) cs

/-- A text in which an hour of one digit has a zero in front. -/
def padHour : List Char → List Char
  | ' ' :: d :: ':' :: rest =>
    if d.isDigit then ' ' :: '0' :: d :: ':' :: rest else ' ' :: padHour (d :: ':' :: rest)
  | c :: cs => c :: padHour cs
  | [] => []

/-- The moment that a text names in the notation of mail, or almost. -/
def readMail (cs : List Char) : Option Timestamp :=
  let cs := shortenMonths (dropWeekday (numberZone cs))
  Timestamp.Mail.read (padHour (replaceFirst " 24:".toList " 00:".toList cs))

/-- The moment that a text in a feed names. -/
def readMoment (cs : List Char) : Option Timestamp :=
  let cs := Text.trim cs
  match readStandard cs with
  | some t => some t
  | none => readMail cs

end Feed
end StatusRelay
