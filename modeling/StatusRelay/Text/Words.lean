/-
# Canonical spacing

A text is brought to canonical spacing in two passes: blanks at both ends are dropped, then
every run of blanks becomes one space. The words of a text are its maximal runs of characters
that are not blank; canonical spacing is the words with one space between neighbours.
-/

import StatusRelay.Text.Blank

namespace StatusRelay
namespace Text

/-- Every run of blanks becomes one space. -/
def squeeze : List Char → List Char
  | [] => []
  | [c] => if isBlank c then [' '] else [c]
  | c :: d :: rest =>
    if isBlank c then
      if isBlank d then squeeze (d :: rest) else ' ' :: squeeze (d :: rest)
    else c :: squeeze (d :: rest)

/-- The maximal runs of characters that are not blank, in order. -/
def words : List Char → List (List Char)
  | [] => []
  | c :: rest =>
    if isBlank c then words rest
    else match rest, words rest with
      | [], _ => [[c]]
      | d :: _, ws =>
        if isBlank d then [c] :: ws
        else match ws with
          | w :: more => (c :: w) :: more
          | [] => [[c]]

/-- A text in canonical spacing. -/
def normalize (text : String) : String := String.ofList (squeeze (trim text.toList))

end Text
end StatusRelay
