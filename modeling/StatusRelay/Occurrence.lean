/-
# Occurrences

A record of what happened, and when. Nothing in a run depends on it. The metrics, the times at
which events reached a sink, and the number of fetches that went on at once are read off it.
-/

import StatusRelay.Consumer
import StatusRelay.Provider

namespace StatusRelay

/-- Something that happened to a task. -/
inductive Occurrence where
  /-- A worker asks for a permit. -/
  | asked
  | fetchBegan
  /-- A fetch came to its end after so many milliseconds. -/
  | fetchEnded (provider : String) (elapsed : Nat) (outcome : FetchOutcome)
  /-- A fetch was given up. -/
  | fetchAbandoned
  /-- The events of a fetch were filtered; so many had been admitted before. -/
  | filtered (provider : String) (fresh : List Event) (duplicates : Nat)
  /-- A publish was completed, with so many deliveries. -/
  | delivered (event : Event) (count : Nat)
  /-- A worker has published an event. -/
  | published (provider : String) (event : Event)
  /-- A consumer takes an event off its queue. -/
  | taken (event : Event)
  /-- A sink is done with an event. -/
  | handled (consumer : String) (event : Event) (outcome : HandlingOutcome)
  /-- A worker or a consumer came to its end. -/
  | ended
  deriving DecidableEq, Repr

/-- An occurrence with its moment and its task. -/
structure Occurrence.Entry where
  time : Nat
  task : Nat
  what : Occurrence
  deriving DecidableEq, Repr

namespace Occurrence

/-- How many more fetches go on after this than before. -/
def inFlightChange : Occurrence → Int
  | fetchBegan => 1
  | fetchEnded .. | fetchAbandoned => -1
  | _ => 0

/-- The largest number of fetches that went on at once, given how many do at the start. -/
def peak (now most : Int) : List Entry → Int
  | [] => most
  | e :: es =>
    let now := now + e.what.inFlightChange
    peak now (max now most) es

end Occurrence
end StatusRelay
