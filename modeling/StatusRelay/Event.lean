/-
# Status events

An event is what a provider reports about one component of one incident. Its key, the provider
and the identifier, says whether it has been seen before; two keys are compared part by part, so
that keys which are written alike are still different.

On the console an event takes three lines: the moment and the provider, the product, the status.
-/

import StatusRelay.Json
import StatusRelay.Timestamp

namespace StatusRelay

/-- What tells one event from another: the provider and the identifier within it. -/
structure Key where
  provider : String
  id : String
  deriving DecidableEq, Repr, Inhabited

/-- A status event. -/
structure Event where
  id : String
  provider : String
  service : String
  message : String
  timestamp : Timestamp
  deriving DecidableEq, Repr, Inhabited

namespace Key

/-- A key in writing: the provider, a slash, the identifier. -/
def text (k : Key) : String := k.provider ++ "/" ++ k.id

/-- Keys are ordered by provider and then by identifier, both by code points. -/
def le (a b : Key) : Bool :=
  decide (a.provider < b.provider) || (a.provider == b.provider && !decide (b.id < a.id))

/-- Keys in increasing order. -/
def sort (ks : List Key) : List Key := ks.mergeSort le

/-- The JSON of a key. -/
def toJson (k : Key) : Json := .obj [("provider", .str k.provider), ("id", .str k.id)]

end Key

namespace Event

/-- The key of an event. -/
def key (e : Event) : Key := ⟨e.provider, e.id⟩

/-- The moment of an event as the console shows it. -/
def consoleTime (t : Timestamp) : List Char :=
  Timestamp.writeDate t.date ++ ' ' :: Timestamp.writeTime t

/-- An event as the console shows it. -/
def consoleText (e : Event) : String :=
  "[" ++ String.ofList (consoleTime e.timestamp) ++ "] Provider: " ++ e.provider ++
    "\n  Product: " ++ e.service ++ "\n  Status: " ++ e.message ++ "\n"

/-- What printing an event on the console adds to the output: its text and an empty line. -/
def consoleLine (e : Event) : String := e.consoleText ++ "\n"

end Event
end StatusRelay
