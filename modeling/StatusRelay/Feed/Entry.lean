/-
# Entries of feeds

What the formats of feeds have in common, as far as it matters here: an entry has an identifier and
may have a title, a summary, a content and two moments. A feed that cannot be read says why.
-/

import StatusRelay.Timestamp

namespace StatusRelay
namespace Feed

/-- An entry of a feed. -/
structure Entry where
  /-- The identifier; empty if the feed gives none. -/
  id : List Char := []
  title : Option (List Char) := none
  summary : Option (List Char) := none
  content : Option (List Char) := none
  updated : Option Timestamp := none
  published : Option Timestamp := none
  deriving DecidableEq, Repr, Inhabited

/-- Why a feed cannot be read. -/
inductive Fault where
  /-- There is no feed in the text. -/
  | noRoot
  /-- A text is of a type that is not known. -/
  | unsupported (type : String)
  /-- Something is not there, or is there against the rules. -/
  | missing (what : String)
  /-- The XML is not well formed. -/
  | markup
  /-- The JSON is no feed. -/
  | json
  /-- The JSON is a feed of a version that is not known. -/
  | version (name : String)
  deriving DecidableEq, Repr

namespace Fault

/-- The wording of a fault. -/
def message : Fault → String
  | noRoot => "unable to parse feed: no root element"
  | unsupported type => "unable to parse feed: unsupported content type " ++ type
  | missing what => "unable to parse feed: missing content element " ++ what
  | markup => "unable to parse XML"
  | json => "unable to parse JSON"
  | version name => "unsupported version: " ++ name

end Fault
end Feed
end StatusRelay
