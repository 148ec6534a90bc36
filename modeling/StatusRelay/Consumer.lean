/-
# Consumers

A consumer takes the events of one subscription and hands them to a sink, one at a time and in
order. Whatever becomes of an event, the next one follows; only a stop, or the end of the bus,
ends the loop. A sink can fail, crash, or crash in a way that takes its consumer down.
-/

import StatusRelay.Crash
import StatusRelay.Event

namespace StatusRelay

/-- What becomes of an event. -/
inductive HandlingOutcome where
  | done
  | failed
  | crashed (crash : Crash)
  /-- The sink crashes and takes the consumer down with it. -/
  | deadly
  deriving DecidableEq, Repr, Inhabited

namespace HandlingOutcome

/-- Whether the event was handled well. -/
def isSuccess : HandlingOutcome → Bool
  | done => true
  | _ => false

end HandlingOutcome

/-- How a sink deals with one event: for so many milliseconds, and to this end. -/
structure Handling where
  delay : Nat := 0
  outcome : HandlingOutcome := .done
  deriving DecidableEq, Repr, Inhabited

/-- Where events go. -/
structure Sink where
  name : String
  /-- What becomes of the event that is the `n`th, from zero. -/
  handle : Nat → Event → Handling
  deriving Inhabited

/-- The stage in which a consumer waits. -/
inductive ConsumerStage where
  /-- It waits for an event. -/
  | receiving
  /-- The sink deals with an event, up to some moment. -/
  | handling (event : Event) (due : Nat) (outcome : HandlingOutcome)
  | ended
  | died
  deriving DecidableEq, Repr, Inhabited

namespace ConsumerStage

/-- Whether the consumer has come to its end. -/
def isOver : ConsumerStage → Bool
  | ended | died => true
  | _ => false

end ConsumerStage

/-- What a consumer has done so far. -/
structure ConsumerTally where
  /-- Events taken off the queue. -/
  received : Nat := 0
  processed : Nat := 0
  /-- Events that the sink failed to handle. -/
  failures : Nat := 0
  deriving DecidableEq, Repr, Inhabited

/-- The loop over one subscription. -/
structure Consumer where
  sink : Sink
  /-- The number of the subscription. -/
  queue : Nat
  /-- When the loop began. -/
  started : Nat
  stage : ConsumerStage := .receiving
  tally : ConsumerTally := {}
  deriving Inhabited

/-- What a consumer reports at its end. -/
structure ConsumerSummary where
  consumer : String
  tally : ConsumerTally
  deriving DecidableEq, Repr, Inhabited

namespace ConsumerSummary

/-- The JSON of a summary. -/
def toJson (s : ConsumerSummary) : Json := .obj [
  ("consumer", .str s.consumer),
  ("received", .int s.tally.received),
  ("processed", .int s.tally.processed),
  ("failures", .int s.tally.failures)]

end ConsumerSummary

namespace Consumer

/-- The summary that the consumer leaves at its end. A consumer that dies leaves none. -/
def report? (c : Consumer) : Option ConsumerSummary :=
  match c.stage with
  | .ended => some ⟨c.sink.name, c.tally⟩
  | _ => none

end Consumer
end StatusRelay
