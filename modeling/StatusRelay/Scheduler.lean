/-
# The scheduler

A scheduler runs one worker for each registered provider, and bounds how many of them fetch at
once. It can be run several times, also at the same time; once it has been stopped it stays so.

The tasks of a run are joined in the order in which they come to their end. When none is left, the
run returns what they report in the order of the providers; a task that died reports nothing.
-/

import StatusRelay.Registry
import StatusRelay.World

namespace StatusRelay

/-- A scheduler with the world in which its workers live. -/
structure Scheduler where
  /-- How many fetches may go on at once. -/
  limit : Nat
  world : World
  deriving Inhabited

namespace Scheduler

/-- The scheduler for registered providers, over a bus whose queues have a certain capacity. -/
def new (limit : Nat) (capacity : Option Nat) (registry : Registry Provider) :
    Except SchedulerFailure Scheduler :=
  if limit = 0 ∨ Permits.maxCount < limit then .error (.invalidConcurrency limit)
  else .ok ⟨limit, .new limit capacity (registry.entries.map (·.2))⟩

/-- Whether the scheduler has been stopped. -/
def isStopped (s : Scheduler) : Bool := s.world.signal.value

/-- A scheduler as a developer sees it. -/
def describe (s : Scheduler) : String :=
  "Scheduler \x7b providers: " ++ Text.quotedList (s.world.providers.map (·.name)) ++
    ", concurrency_limit: " ++ toString s.limit ++
    ", available_permits: " ++ toString s.world.permits.free ++
    ", stopped: " ++ toString s.isStopped ++ " \x7d"

end Scheduler

/-! ### Joining -/

/-- What the task of a worker comes to. -/
structure WorkerEnding where
  /-- The place of the provider among all. -/
  index : Nat
  /-- What the worker reports, unless its task died. -/
  report : Option WorkerSummary
  deriving DecidableEq, Repr

namespace WorkerEnding

/-- The reports among endings, in the order of the providers. -/
def gather (endings : List WorkerEnding) : List WorkerSummary :=
  ((endings.filterMap fun e => e.report.map fun s => (e.index, s)).mergeSort
    fun a b => a.1 ≤ b.1).map (·.2)

/-- What a run of so many workers returns, given the tasks joined so far: nothing as long as some
are left. -/
def join? (count : Nat) (endings : List WorkerEnding) : Option (List WorkerSummary) :=
  if endings.length = count then some (gather endings) else none

end WorkerEnding

/-- What the task of the worker comes to. -/
def Worker.ending (k : Worker) : WorkerEnding := ⟨k.source, k.report?⟩

/-- The worker of a run that a task is. -/
def World.member? (w : World) (run task : Nat) : Option Worker :=
  (w.tasks[task]?.bind Task.worker?).filter (·.run == run)

/-- The tasks of a run that have come to their end, the earliest first. -/
def World.endings (w : World) (run : Nat) : List WorkerEnding :=
  (w.log.reverse.filter (·.what == .ended)).filterMap fun e =>
    (w.member? run e.task).map Worker.ending

end StatusRelay
