/-
# Providers

A provider is asked for events again and again, and answers each time after a while. All that the
rest of the program relies on is in the answer: how long it took and how it ended.
-/

import StatusRelay.Crash
import StatusRelay.Event

namespace StatusRelay

/-- How a fetch ends. -/
inductive FetchOutcome where
  | events (es : List Event)
  /-- It crashes, and the worker carries on as if there were no events. -/
  | crashed (crash : Crash)
  /-- It crashes and takes the worker down with it. -/
  | deadly
  deriving DecidableEq, Repr, Inhabited

namespace FetchOutcome

/-- Whether the fetch crashed. -/
def isFault : FetchOutcome → Bool
  | events _ => false
  | _ => true

/-- The events that came with it. -/
def found : FetchOutcome → List Event
  | events es => es
  | _ => []

end FetchOutcome

/-- One fetch: how many milliseconds it takes, and its end. -/
structure Fetch where
  delay : Nat := 0
  outcome : FetchOutcome := .events []
  deriving DecidableEq, Repr, Inhabited

/-- A source of events. -/
structure Provider where
  name : String
  /-- How many milliseconds a worker waits between two cycles. -/
  interval : Nat
  /-- What each fetch, counted from zero, comes to. -/
  fetch : Nat → Fetch
  /-- How many fetches have begun. -/
  calls : Nat := 0
  deriving Inhabited

namespace Provider

/-- How many seconds pass between two cycles of a provider that does not say. -/
def defaultIntervalSeconds : Nat := 300

/-- The same in milliseconds. -/
def defaultInterval : Nat := defaultIntervalSeconds * 1000

end Provider
end StatusRelay
