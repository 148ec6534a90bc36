/-
# The world of a run

Workers, consumers and single publishes are tasks that share a store of admitted keys, a bus, a
counter of permits and a stop signal. Time is a number of milliseconds that stands still while any
task can move, and then goes to the next timer.

**Fairness.** A task moves when it is `poll`ed, as far as it can go without waiting. Tasks that may
be able to move stand in a queue, and are polled in the order in which they came. A task that is
polled for nothing is left as it is.

**Stopping.** Every wait of a worker or a consumer is a race against the stop signal, and the
signal wins: a task that is polled after a stop comes to its end, and gives back what it holds. A
single publish knows nothing of the signal.

| what a worker holds | when it is stopped |
| --- | --- |
| a place in line for a permit | leaves the line |
| a permit, during a fetch | gives it back, the fetch is abandoned |
| a publish at the bus | gives it up |
| nothing, while it sleeps | |

**Threads.** A poll is atomic here: between its look at the signal and the place where the task
waits, no other task moves, no stop comes and no time passes. So it is on a runtime with one thread.
The command runs its tasks on several. There a poll falls into strides, and others move in between;
a stop may come after a task has looked at the signal and before it has done what it does then.
Strides are in `StatusRelay.World.Strides`, and their runs in `StatusRelay.Proofs.World.Threads` and
`StatusRelay.Proofs.World.Sustained`. `StatusRelay.Proofs.World.OneThread` shows that the runs of
polls are among these. What depends on threads is the report of a run, in
`StatusRelay.Proofs.Monitor`. All else that is said of a run is said of polls.
-/

import StatusRelay.Admission
import StatusRelay.Bus
import StatusRelay.Occurrence
import StatusRelay.Permits
import StatusRelay.Worker

namespace StatusRelay

/-- The stop signal, which is held by whoever may stop the tasks. -/
structure Signal where
  value : Bool := false
  /-- Whether the holder is still there. -/
  isHeld : Bool := true
  deriving DecidableEq, Repr, Inhabited

namespace Signal

/-- Whether the tasks are to stop: the signal says so, or nobody is left to give it. -/
def isStop (s : Signal) : Bool := s.value || !s.isHeld

end Signal

/-- The stage of a single publish. -/
inductive PublisherStage where
  | new | waiting | over
  deriving DecidableEq, Repr, Inhabited

/-- What moves. -/
inductive Task where
  | worker (w : Worker)
  | consumer (c : Consumer)
  | publisher (event : Event) (stage : PublisherStage)
  deriving Inhabited

namespace Task

/-- The worker that a task is. -/
def worker? : Task → Option Worker
  | worker w => some w
  | _ => none

/-- The consumer that a task is. -/
def consumer? : Task → Option Consumer
  | consumer c => some c
  | _ => none

/-- Whether the task has come to its end. -/
def isOver : Task → Bool
  | worker w => w.stage.isOver
  | consumer c => c.stage.isOver
  | publisher _ stage => stage = .over

end Task

/-- The tasks with all that they share. -/
structure World where
  /-- Milliseconds since the beginning. -/
  now : Nat
  permits : Permits
  signal : Signal
  admission : Admission
  bus : Bus
  providers : List Provider
  /-- How many times all workers have been started. -/
  runs : Nat
  /-- Every task so far; its place is its number, and the ticket of its publish. -/
  tasks : List Task
  /-- The tasks to poll, in order. -/
  ready : List Nat
  /-- The moments at which tasks are to be polled, in the order in which they were set. -/
  timers : List (Nat × Nat)
  /-- What has happened, the latest first. -/
  log : List Occurrence.Entry
  deriving Inhabited

namespace World

/-- A world in which nothing has begun. -/
def new (permits : Nat) (capacity : Option Nat) (providers : List Provider) : World where
  now := 0
  permits := .new permits
  signal := {}
  admission := .empty
  bus := .new capacity
  providers := providers
  runs := 0
  tasks := []
  ready := []
  timers := []
  log := []

/-! ### Bookkeeping -/

/-- Records an occurrence. -/
def note (w : World) (task : Nat) (what : Occurrence) : World :=
  { w with log := ⟨w.now, task, what⟩ :: w.log }

/-- Changes a task. -/
def put (w : World) (task : Nat) (t : Task) : World := { w with tasks := w.tasks.set task t }

/-- Has a task polled, unless it is in the queue already. -/
def wake (w : World) (task : Nat) : World :=
  if w.ready.contains task then w else { w with ready := w.ready ++ [task] }

/-- Has tasks polled in order. -/
def wakeAll (w : World) (tasks : List Nat) : World := tasks.foldl wake w

/-- The consumers of a queue, by their numbers. -/
def receivers (w : World) (queue : Nat) : List Nat :=
  (List.range w.tasks.length).filter fun i =>
    match w.tasks[i]? with
    | some (.consumer c) => c.queue == queue && !c.stage.isOver
    | _ => false

/-- Has those polled whom the bus names. -/
def wakeParties (w : World) (parties : List Wake) : World :=
  parties.foldl (fun w party =>
    match party with
    | .publisher ticket => w.wake ticket
    | .receiver queue => w.wakeAll (w.receivers queue)) w

/-- Replaces the bus by one that an operation has left, and has those polled whom it names. -/
def withBus (w : World) (bus : Bus) (parties : List Wake) : World :=
  { w with bus := bus }.wakeParties parties

/-- Replaces the permits, and has the task polled that was given one. -/
def withPermits (w : World) (permits : Permits) (given : Option Nat) : World :=
  { w with permits := permits }.wakeAll given.toList

/-- Gives a permit back. -/
def releasePermit (w : World) : World := w.withPermits w.permits.release.1 w.permits.release.2

/-- Sets a timer for a task. A moment that has come needs none. -/
def setTimer (w : World) (task due : Nat) : World :=
  if due ≤ w.now then w.wake task else { w with timers := w.timers ++ [(due, task)] }

/-- Adds a task, to be polled after those in the queue. -/
def spawn (w : World) (t : Task) : World :=
  { w with tasks := w.tasks ++ [t] }.wake w.tasks.length

/-! ### Publishing -/

/-- Moves the publish of a task on if it has the gate. The result is the number of deliveries if
it was completed. -/
def drive (w : World) (task : Nat) (event : Event) : World × Option Nat :=
  if w.bus.gate.holder? = some task then
    match w.bus.drive with
    | (bus, some (_, count), parties) =>
      ((w.withBus bus parties).note task (.delivered event count), some count)
    | (bus, none, parties) => (w.withBus bus parties, none)
  else (w, none)

/-- Asks the bus to publish an event for a task. -/
def request (w : World) (task : Nat) (event : Event) : World :=
  { w with bus := w.bus.request task event }

/-- Gives up the publish of a task. -/
def cancelPublish (w : World) (task : Nat) : World :=
  let (_, bus, parties) := w.bus.cancel task
  w.withBus bus parties

/-- Polls a single publish. -/
def pollPublisher (w : World) (task : Nat) (event : Event) : PublisherStage → World
  | .new => go (w.request task event)
  | .waiting => go w
  | .over => w
where
  /-- Moves the publish on. -/
  go (w : World) : World :=
    match w.drive task event with
    | (w, some _) => w.put task (.publisher event .over)
    | (w, none) => w.put task (.publisher event .waiting)

/-! ### Workers -/

/-- A worker comes to its end. -/
def endWorker (w : World) (task : Nat) (k : Worker) (stage : Stage) : World :=
  (w.put task (.worker { k with stage := stage })).note task .ended

/-- A worker has nothing left to publish, and sleeps. -/
def sleep (w : World) (task : Nat) (k : Worker) : World :=
  (w.put task (.worker { k with stage := .sleeping (w.now + k.interval) })).setTimer task
    (w.now + k.interval)

/-- A worker goes on with the publishing of its events, of which the bus has been asked to publish
the first. -/
def publish (w : World) (task : Nat) (k : Worker) : List Event → World
  | [] => w.sleep task k
  | e :: es =>
    match w.drive task e with
    | (w, none) => w.put task (.worker { k with stage := .publishing (e :: es) })
    | (w, some _) =>
      let k := { k with tally.published := k.tally.published + 1 }
      let w := w.note task (.published k.name e)
      match es with
      | [] => w.sleep task k
      | e' :: _ => publish (w.request task e') task k es

/-- A worker has the events of a fetch, which are filtered and published. -/
def sift (w : World) (task : Nat) (k : Worker) (found : List Event) : World :=
  let (fresh, admission) := w.admission.filter found
  let duplicates := found.length - fresh.length
  let k := { k with
    tally.fetched := k.tally.fetched + found.length
    tally.duplicates := k.tally.duplicates + duplicates }
  let w := { w with admission := admission }.note task (.filtered k.name fresh duplicates)
  match fresh with
  | [] => w.sleep task k
  | e :: _ => (w.request task e).publish task k fresh

/-- A fetch comes to its end. The permit goes back first. -/
def finishFetch (w : World) (task : Nat) (k : Worker) (since : Nat) (outcome : FetchOutcome) :
    World :=
  let w := w.releasePermit.note task (.fetchEnded k.name (w.now - since) outcome)
  let k := if outcome.isFault then { k with tally.faults := k.tally.faults + 1 } else k
  match outcome with
  | .deadly => w.endWorker task k .died
  | _ => w.sift task k outcome.found

/-- A worker that has a permit begins a fetch. -/
def beginFetch (w : World) (task : Nat) (k : Worker) : World :=
  let k := { k with tally.cycles := k.tally.cycles + 1 }
  let w := w.note task .fetchBegan
  match w.providers[k.source]? with
  | none => w.finishFetch task k w.now (.events [])
  | some p =>
    let fetch := p.fetch p.calls
    let w := { w with providers := w.providers.set k.source { p with calls := p.calls + 1 } }
    if fetch.delay = 0 then w.finishFetch task k w.now fetch.outcome
    else
      let due := w.now + fetch.delay
      (w.put task (.worker { k with stage := .fetching w.now due fetch.outcome })).setTimer task due

/-- A worker asks for a permit. When the permits have been withdrawn it ends. -/
def askPermit (w : World) (task : Nat) (k : Worker) : World :=
  let w := w.note task .asked
  if w.permits.closed then w.endWorker task k .cancelled
  else match w.permits.take? with
    | some permits => { w with permits := permits }.beginFetch task k
    | none =>
      { w with permits := w.permits.join task }.put task (.worker { k with stage := .queued })

/-- A worker is stopped, and gives back what it holds. -/
def stopWorker (w : World) (task : Nat) (k : Worker) : World :=
  let w := match k.stage with
    | .queued =>
      let (permits, given) := w.permits.leave task
      w.withPermits permits given
    | .fetching .. => w.releasePermit.note task .fetchAbandoned
    | .publishing _ => w.cancelPublish task
    | _ => w
  w.endWorker task k .cancelled

/-- Polls a worker that has not come to its end. -/
def pollWorker (w : World) (task : Nat) (k : Worker) : World :=
  if w.signal.isStop then w.stopWorker task k
  else match k.stage with
    | .ready => w.askPermit task k
    | .queued =>
      if w.permits.closed then w.endWorker task k .cancelled
      else match w.permits.collect? task with
        | some permits => { w with permits := permits }.beginFetch task k
        | none => w
    | .fetching since due outcome =>
      if due ≤ w.now then w.finishFetch task k since outcome else w
    | .publishing pending => w.publish task k pending
    | .sleeping due => if due ≤ w.now then w.askPermit task k else w
    | .cancelled | .died => w

/-! ### Consumers -/

/-- A consumer comes to its end, and lets go of its subscription. -/
def endConsumer (w : World) (task : Nat) (c : Consumer) (stage : ConsumerStage) : World :=
  let (bus, parties) := w.bus.unsubscribe c.queue
  ((w.put task (.consumer { c with stage := stage })).withBus bus parties).note task .ended

/-- The sink is done with an event. -/
def finishHandling (w : World) (task : Nat) (c : Consumer) (event : Event)
    (outcome : HandlingOutcome) : World × Consumer :=
  let w := w.note task (.handled c.sink.name event outcome)
  let tally := if outcome.isSuccess then { c.tally with processed := c.tally.processed + 1 }
    else { c.tally with failures := c.tally.failures + 1 }
  (w, { c with stage := .receiving, tally := tally })

/-- A consumer takes events off its queue, as long as its sink is done with them at once; `most`
bounds their number. -/
def receive (w : World) (task : Nat) (c : Consumer) : Nat → World
  | 0 => w.put task (.consumer c)
  | most + 1 =>
    match w.bus.take c.queue with
    | (.nothing, _, _) => w.put task (.consumer c)
    | (.closed, _, _) => w.endConsumer task c .ended
    | (.event e, bus, parties) =>
      let w := (w.withBus bus parties).note task (.taken e)
      let handling := c.sink.handle c.tally.received e
      let c := { c with tally.received := c.tally.received + 1 }
      if handling.delay = 0 then
        let (w, c) := w.finishHandling task c e handling.outcome
        if handling.outcome = .deadly then w.endConsumer task c .died
        else receive w task c most
      else
        let due := w.now + handling.delay
        (w.put task (.consumer { c with stage := .handling e due handling.outcome })).setTimer
          task due

/-- How many events the queue with a number holds. -/
def backlog (w : World) (queue : Nat) : Nat :=
  match w.bus.queue? queue with
  | some q => q.items.length
  | none => 0

/-- Polls a consumer that has not come to its end. -/
def pollConsumer (w : World) (task : Nat) (c : Consumer) : World :=
  if w.signal.isStop then w.endConsumer task c .ended
  else match c.stage with
    | .receiving => w.receive task c (w.backlog c.queue + 1)
    | .handling e due outcome =>
      if due ≤ w.now then
        let (w, c) := w.finishHandling task c e outcome
        if outcome = .deadly then w.endConsumer task c .died
        else w.receive task c (w.backlog c.queue + 1)
      else w
    | .ended | .died => w

/-! ### Running -/

/-- Polls a task. -/
def poll (w : World) (task : Nat) : World :=
  match w.tasks[task]? with
  | none => w
  | some t =>
    if t.isOver then w
    else match t with
      | .worker k => w.pollWorker task k
      | .consumer c => w.pollConsumer task c
      | .publisher event stage => w.pollPublisher task event stage

/-- Whether every task waits. -/
def isSettled (w : World) : Bool := w.ready.isEmpty

/-- Polls the first task in the queue. -/
def step (w : World) : World :=
  match w.ready with
  | [] => w
  | task :: rest => { w with ready := rest }.poll task

/-- Polls tasks until all of them wait, so many times at most. -/
def settleAt (w : World) : Nat → World
  | 0 => w
  | most + 1 => if w.isSettled then w else w.step.settleAt most

/-- How often tasks are polled before they are taken to never rest. -/
def patience : Nat := Nat.pow 2 40

/-- Polls tasks until all of them wait. -/
def settle (w : World) : World := w.settleAt patience

/-- The moment of the next timer. -/
def nextTimer (w : World) : Option Nat := (w.timers.map (·.1)).min?

/-- Goes to a moment, and has those polled whose timers are due. -/
def fire (w : World) (moment : Nat) : World :=
  let due := (w.timers.filter fun t => t.1 ≤ moment).map (·.2)
  { w with
    now := moment
    timers := w.timers.filter fun t => moment < t.1 }.wakeAll due

/-- Goes to the next timer. -/
def skip (w : World) (next : Nat) : World := (w.fire (max w.now next)).settle

/-- Goes from timer to timer up to a moment, at most so many times. -/
def advanceAt (w : World) (moment : Nat) : Nat → World
  | 0 => { w with now := moment }
  | most + 1 =>
    match w.nextTimer with
    | none => { w with now := moment }
    | some next =>
      if next ≤ moment then (w.skip next).advanceAt moment most else { w with now := moment }

/-- Lets so many milliseconds pass. Each timer on the way is later than the one before. -/
def advance (w : World) (ms : Nat) : World := w.settle.advanceAt (w.now + ms) (ms + 1)

/-- Goes from timer to timer until the world is over, or to a moment if one is given, at most so
many times. The moment comes before the timers that are due then. -/
def runUntilAt (w : World) (isOver : World → Bool) (moment : Option Nat) : Nat → World
  | 0 => w
  | most + 1 =>
    if isOver w then w
    else match w.nextTimer, moment with
      | none, none => w
      | none, some moment => { w with now := moment }
      | some next, none => (w.skip next).runUntilAt isOver none most
      | some next, some moment =>
        if next < moment then (w.skip next).runUntilAt isOver (some moment) most
        else { w with now := moment }

/-- Lets time pass until the world is over, or up to a moment if one is given. -/
def runUntil (w : World) (isOver : World → Bool) (moment : Option Nat) : World :=
  w.settle.runUntilAt isOver moment patience

/-! ### From outside -/

/-- Starts a worker for every provider. -/
def start (w : World) : World :=
  let workers := (List.range w.providers.length).zip w.providers |>.map fun (source, p) =>
    Task.worker (.ofProvider w.runs source p)
  workers.foldl spawn { w with runs := w.runs + 1 }

/-- Starts a consumer of a subscription. -/
def consume (w : World) (sink : Sink) (queue : Nat) : World :=
  w.spawn (.consumer { sink := sink, queue := queue, started := w.now })

/-- Starts the publish of an event. -/
def post (w : World) (event : Event) : World := w.spawn (.publisher event .new)

/-- The tasks that the stop signal reaches. -/
def stoppable (w : World) : List Nat :=
  (List.range w.tasks.length).filter fun i =>
    match w.tasks[i]? with
    | some (.publisher ..) | none => false
    | some t => !t.isOver

/-- Gives the signal a value. -/
def send (w : World) (value : Bool) : World :=
  { w with signal.value := value }.wakeAll w.stoppable

/-- Lets go of the signal. -/
def dropSignal (w : World) : World := { w with signal.isHeld := false }.wakeAll w.stoppable

/-- Tells every worker and every consumer to stop. -/
def stop (w : World) : World := w.send true

/-- Withdraws the permits. -/
def closePermits (w : World) : World :=
  { w with permits := w.permits.close.1 }.wakeAll w.permits.close.2

/-- Makes a subscription that no consumer has. -/
def subscribe? (w : World) : Option (Nat × World) :=
  w.bus.subscribe?.map fun (queue, bus) => (queue, { w with bus := bus })

/-- Gives up a subscription that no consumer has. -/
def unsubscribe (w : World) (queue : Nat) : World :=
  w.withBus (w.bus.unsubscribe queue).1 (w.bus.unsubscribe queue).2

/-- Takes the oldest event of a subscription that no consumer has. -/
def take (w : World) (queue : Nat) : Bus.Taken × World :=
  let (found, bus, parties) := w.bus.take queue
  (found, w.withBus bus parties)

/-- Takes all events of a subscription that no consumer has. -/
def drain (w : World) (queue : Nat) : List Event × World :=
  let (found, bus, parties) := w.bus.drain queue
  (found, w.withBus bus parties)

/-- Lets go of the bus. Workers hold it too; publishes that are under way go on to their end. -/
def closeBus (w : World) : World := w.withBus w.bus.close.1 w.bus.close.2

/-! ### Views -/

/-- The workers of a run, in the order of the providers. -/
def workers (w : World) (run : Nat) : List Worker :=
  (w.tasks.filterMap Task.worker?).filter fun k => k.run == run

/-- The consumers, in the order in which they were started. -/
def consumers (w : World) : List Consumer := w.tasks.filterMap Task.consumer?

/-- The names of the providers that fetch, once for each fetch. -/
def fetching (w : World) : List String :=
  (w.tasks.filterMap Task.worker?).filterMap fun k =>
    match k.stage with
    | .fetching .. => some k.name
    | _ => none

/-- The summaries of a run, once all its workers have come to their end: those of the workers that
did not die. -/
def result? (w : World) (run : Nat) : Option (List WorkerSummary) :=
  let workers := w.workers run
  if workers.all fun k => k.stage.isOver then some (workers.filterMap Worker.report?) else none

/-- The largest number of fetches that have gone on at once. -/
def peak (w : World) : Nat := (Occurrence.peak 0 0 w.log.reverse).toNat

/-- The tasks that fetch. -/
def fetchers (w : World) : List Nat :=
  (List.range w.tasks.length).filter fun i =>
    match w.tasks[i]? with
    | some (.worker ⟨_, _, _, _, .fetching .., _⟩) => true
    | _ => false

/-- Gives up every fetch that goes on, as the end of the world does. -/
def abandon (w : World) : World := w.fetchers.foldl (fun w i => w.note i .fetchAbandoned) w

end World
end StatusRelay
