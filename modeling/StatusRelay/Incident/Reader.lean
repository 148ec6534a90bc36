/-
# Reading incidents

| part of an incident | is found |
| --- | --- |
| identifier | after the last `/incidents/` in the identifier of the entry |
| title | in the title, in canonical spacing |
| status | in the summary, after `Status:` in any case and blanks, up to a `<` or the end |
| components | in the list items of the summary, in canonical spacing |
| moment | in the later of the two moments of the entry |

A status is a character at least, and is on one line. So when nothing but blanks stands before the
`<`, the status begins with a blank or the `<` itself; and where no status can follow one `Status:`
another one is looked for. The letter `ſ` is an `s` here.

A list item that ends in a parenthesis names its component before the first parenthesis. An entry
without a summary is read by its content instead.
-/

import StatusRelay.Feed.Entry
import StatusRelay.Html.Fragment
import StatusRelay.Incident
import StatusRelay.Text.Words

namespace StatusRelay
namespace Incident

/-! ### The identifier -/

/-- What stands before the identifier of an incident. -/
def marker : List Char := "/incidents/".toList

/-- What follows the last occurrence of a mark. -/
def afterLast (mark : List Char) : List Char → Option (List Char)
  | [] => none
  | c :: cs =>
    match afterLast mark cs with
    | some rest => some rest
    | none => mark.isPrefixOf? (c :: cs)

/-- The identifier of the incident that an entry's identifier names. -/
def id? (entryId : List Char) : Option (List Char) :=
  (afterLast marker entryId).filter fun rest => !rest.isEmpty

/-! ### The status -/

/-- Whether a character is a letter, given in lower case, in one of its forms. -/
def isLetter (letter c : Char) : Bool := c.toLower == letter || (letter == 's' && c == 'ſ')

/-- The text after a name and a colon. -/
def afterName (name : List Char) (cs : List Char) : Option (List Char) :=
  match name, cs with
  | [], ':' :: cs => some cs
  | letter :: name, c :: cs => if isLetter letter c then afterName name cs else none
  | _, _ => none

/-- The rest of a status that has begun with `acc`, last character first. -/
def statusRest (acc : List Char) : List Char → Option (List Char)
  | [] => some acc.reverse
  | c :: cs =>
    if c = '<' then some acc.reverse
    else if c = '\n' then none
    else statusRest (c :: acc) cs

/-- The status that begins with the first character of a text. -/
def statusHere? : List Char → Option (List Char)
  | [] => none
  | c :: cs => if c = '\n' then none else statusRest [c] cs

/-- The status after `Status:`, which begins as late in the blanks as it can. -/
def statusAfter? : List Char → Option (List Char)
  | [] => none
  | c :: cs =>
    if Text.isBlank c then
      match statusAfter? cs with
      | some status => some status
      | none => statusHere? (c :: cs)
    else statusHere? (c :: cs)

/-- The first status in a text. -/
def status? : List Char → Option (List Char)
  | [] => none
  | c :: cs =>
    match (afterName "status".toList (c :: cs)).bind statusAfter? with
    | some status => some status
    | none => status? cs

/-- The status that a summary gives. -/
def statusOf (summary : List Char) : String :=
  match (status? summary).map Text.trim with
  | none | some [] => "Unknown"
  | some text => String.ofList text

/-! ### The components -/

/-- A text less its last part in parentheses: if a parenthesis ends it, all from the first
parenthesis on that opens. -/
def dropSuffix (cs : List Char) : List Char :=
  if cs.getLast? = some ')' ∧ cs.contains '(' then Text.trimRight (cs.takeWhile (· != '('))
  else cs

/-- The component that a list item names; it may be empty. -/
def component (item : List Char) : List Char := dropSuffix (Text.squeeze (Text.trim item))

/-- The components that a summary lists. -/
def componentsOf (summary : List Char) : List String :=
  (((Html.listItems summary).map component).filter fun name => !name.isEmpty).map String.ofList

/-! ### The entry -/

/-- The summary of an entry, or what stands in for it. -/
def summaryOf (e : Feed.Entry) : List Char := (e.summary <|> e.content).getD []

/-- The incident that an entry describes. -/
def ofEntry? (e : Feed.Entry) : Option Incident := do
  let id ← id? e.id
  let summary := summaryOf e
  return {
    id := String.ofList id
    title := match e.title with
      | some title => Text.normalize (String.ofList title)
      | none => "Unknown incident"
    status := statusOf summary
    components := componentsOf summary
    moment := e.updated <|> e.published }

end Incident
end StatusRelay
