/-
# Feeds in JSON

A feed in JSON is an object with a version, a title and a list of items, each with an identifier;
what else it may hold must be of the type that the format gives it, or null. No name of the format
may stand twice, and other names are passed over. Two versions are known.

An item can have its content as text or as markup, and the text is taken if both are there.
-/

import StatusRelay.Feed.Entry
import StatusRelay.Feed.Moment
import StatusRelay.Json.Reader
import StatusRelay.Text.Utf8

namespace StatusRelay
namespace Feed

/-- What a value must be. -/
inductive Shape where
  | text
  | truth
  /-- A number of 64 bits. -/
  | count
  | texts
  /-- Objects with these members; the mark says whether a member must be there. -/
  | object (members : List (String × Bool × Shape))
  | objects (members : List (String × Bool × Shape))

/-- A member that must be there. -/
abbrev required (name : String) (s : Shape) : String × Bool × Shape := (name, true, s)

/-- A member that may be missing or null. -/
abbrev optional (name : String) (s : Shape) : String × Bool × Shape := (name, false, s)

namespace Shape

/-- An author of a feed or an item. -/
def author : List (String × Bool × Shape) :=
  [optional "name" .text, optional "url" .text, optional "avatar" .text]

/-- A file that comes with an item. -/
def attachment : List (String × Bool × Shape) :=
  [required "url" .text, required "mime_type" .text, optional "title" .text,
    optional "size_in_bytes" .count, optional "duration_in_seconds" .count]

/-- An item. -/
def item : List (String × Bool × Shape) :=
  [required "id" .text, optional "url" .text, optional "external_url" .text,
    optional "title" .text, optional "content_html" .text, optional "content_text" .text,
    optional "summary" .text, optional "image" .text, optional "banner_image" .text,
    optional "date_published" .text, optional "date_modified" .text,
    optional "author" (.object author), optional "authors" (.objects author),
    optional "tags" .texts, optional "language" .text,
    optional "attachments" (.objects attachment)]

/-- A place that tells of changes to a feed. -/
def hub : List (String × Bool × Shape) := [required "type" .text, required "url" .text]

/-- A feed. -/
def feed : List (String × Bool × Shape) :=
  [required "version" .text, required "title" .text, optional "home_page_url" .text,
    optional "feed_url" .text, optional "description" .text, optional "user_comment" .text,
    optional "next_url" .text, optional "icon" .text, optional "favicon" .text,
    optional "author" (.object author), optional "authors" (.objects author),
    optional "language" .text, optional "expired" .truth, optional "hubs" (.objects hub),
    required "items" (.objects item)]

/-- Whether a value is a text. -/
def isText : Json → Bool
  | .str _ => true
  | _ => false

mutual

/-- Whether a value has a shape. -/
def admits (j : Json) : Shape → Bool
  | .text => isText j
  | .truth => match j with
    | .bool _ => true
    | _ => false
  | .count => match j with
    | .int n => 0 ≤ n && n < Nat.pow 2 64
    | _ => false
  | .texts => match j with
    | .arr items => items.all isText
    | _ => false
  | .object members => match j with
    | .obj _ => admitsMembers j members
    | _ => false
  | .objects members => match j with
    | .arr items => items.all fun i => match i with
      | .obj _ => admitsMembers i members
      | _ => false
    | _ => false

/-- Whether the members of an object have their shapes, and none of them stands twice. -/
def admitsMembers (j : Json) : List (String × Bool × Shape) → Bool
  | [] => true
  | (name, isRequired, s) :: more =>
    let found : List (String × Json) := match j with
      | .obj ms => ms.filter fun m => m.1 == name
      | _ => []
    let isRight := match found with
      | [] => !isRequired
      | [(_, .null)] => !isRequired
      | [(_, v)] => admits v s
      | _ => false
    isRight && admitsMembers j more

end

end Shape

/-- A member that is a text. -/
def member? (j : Json) (name : String) : Option (List Char) :=
  match j.get? name with
  | some (.str s) => some s.toList
  | _ => none

/-- The entry that an item is. -/
def jsonEntry (j : Json) : Entry where
  id := (member? j "id").getD []
  title := member? j "title"
  summary := member? j "summary"
  content := member? j "content_text" <|> member? j "content_html"
  updated := (member? j "date_modified").bind readMoment
  published := (member? j "date_published").bind readMoment

/-- The versions of the format. -/
def versions : List String :=
  ["1", "1.1"].map fun number => "https://" ++ "jsonfeed.org/version/" ++ number

/-- The entries of a feed in JSON. -/
def readJson (bytes : List UInt8) : Except Fault (List Entry) :=
  match (Text.decode? bytes).map StatusRelay.Json.read with
  | some (.ok j) =>
    if Shape.admits j (.object Shape.feed) then
      let version := String.ofList ((member? j "version").getD [])
      if versions.contains version then
        match j.get? "items" with
        | some (.arr items) => .ok (items.map jsonEntry)
        | _ => .error .json
      else .error (.version version)
    else .error .json
  | _ => .error .json

end Feed
end StatusRelay
