/-
# Workers

A worker polls one provider, cycle after cycle, until it is told to stop. It holds a permit only
while the provider fetches.

```
ready ─► queued ─► fetching ─► publishing ─► sleeping ─► ready
```

In `queued` it waits for a permit, and it passes this stage by when one is free. Between a fetch
and the publishing of its events the events are filtered, at once. From every stage a stop leads
to `cancelled`; a fetch that takes the worker down leads to `died`.
-/

import StatusRelay.Provider

namespace StatusRelay

/-- The state of a worker as it is reported. -/
inductive WorkerState where
  | idle | fetching | filtering | publishing | sleeping | cancelled
  deriving DecidableEq, Repr, Inhabited

namespace WorkerState

/-- Every state, in the order of a cycle. -/
def all : List WorkerState := [idle, fetching, filtering, publishing, sleeping, cancelled]

/-- A state in writing. -/
def name : WorkerState → String
  | idle => "idle"
  | fetching => "fetching"
  | filtering => "filtering"
  | publishing => "publishing"
  | sleeping => "sleeping"
  | cancelled => "cancelled"

/-- A state as a developer sees it: its name with a capital letter. -/
def describe (s : WorkerState) : String := s.name.capitalize

/-- The JSON of a state. -/
def toJson (s : WorkerState) : Json := .str s.name

end WorkerState

/-- The stage in which a worker waits. Times are in milliseconds. -/
inductive Stage where
  /-- It has not asked for a permit. -/
  | ready
  /-- It waits for a permit. -/
  | queued
  /-- The provider fetches, from one moment to another. -/
  | fetching (since due : Nat) (outcome : FetchOutcome)
  /-- It has events to publish, and has asked the bus to publish the first. -/
  | publishing (pending : List Event)
  | sleeping (due : Nat)
  | cancelled
  | died
  deriving DecidableEq, Repr, Inhabited

namespace Stage

/-- The state that a worker at this stage reports. -/
def state : Stage → WorkerState
  | ready | queued => .idle
  | fetching .. | died => .fetching
  | publishing _ => .publishing
  | sleeping _ => .sleeping
  | cancelled => .cancelled

/-- Whether the worker has come to its end. -/
def isOver : Stage → Bool
  | cancelled | died => true
  | _ => false

end Stage

/-- What a worker has done so far. -/
structure WorkerTally where
  /-- Fetches begun. -/
  cycles : Nat := 0
  /-- Events that came with the fetches. -/
  fetched : Nat := 0
  published : Nat := 0
  /-- Events that had been admitted before. -/
  duplicates : Nat := 0
  /-- Fetches that crashed. -/
  faults : Nat := 0
  deriving DecidableEq, Repr, Inhabited

/-- The polling of one provider. -/
structure Worker where
  /-- The place of the provider among all. -/
  source : Nat
  name : String
  interval : Nat
  /-- The run of the scheduler that the worker belongs to. -/
  run : Nat
  stage : Stage := .ready
  tally : WorkerTally := {}
  deriving DecidableEq, Repr, Inhabited

/-- What a worker reports at its end. -/
structure WorkerSummary where
  provider : String
  tally : WorkerTally
  finalState : WorkerState
  deriving DecidableEq, Repr, Inhabited

namespace WorkerSummary

/-- The JSON of a summary. -/
def toJson (s : WorkerSummary) : Json := .obj [
  ("provider", .str s.provider),
  ("cycles", .int s.tally.cycles),
  ("events_fetched", .int s.tally.fetched),
  ("events_published", .int s.tally.published),
  ("duplicates", .int s.tally.duplicates),
  ("fetch_faults", .int s.tally.faults),
  ("final_state", s.finalState.toJson)]

end WorkerSummary

namespace Worker

/-- The worker for a provider. -/
def ofProvider (run source : Nat) (p : Provider) : Worker where
  source := source
  name := p.name
  interval := p.interval
  run := run

/-- A snapshot of the worker. -/
def summary (w : Worker) : WorkerSummary := ⟨w.name, w.tally, w.stage.state⟩

/-- The summary that the worker leaves when it is told to stop. A worker that dies leaves none. -/
def report? (w : Worker) : Option WorkerSummary :=
  if w.stage = .cancelled then some w.summary else none

end Worker
end StatusRelay
