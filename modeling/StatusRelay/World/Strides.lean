/-
# Strides

A task that is polled looks at the stop signal, goes on up to the place where it looks again, and so
on until it has to wait. The way from one look to the next is a **stride**.

On one thread a poll is its strides with nothing between them. The program runs on several: other
tasks make strides of their own in between, and time passes. A stop can come in the middle of a
stride too, right after the task has looked at the signal. The task then goes on to its next look
all the same, and finds the stop there.

| stage | stride |
| --- | --- |
| `ready`, or `sleeping` and it is time | asks for a permit, and the provider when it gets one |
| `queued`, and a permit was given | asks the provider |
| `fetching`, and the fetch is done | gives the permit back, filters the events |
| `publishing` | publishes the first event, as far as that goes |
| `receiving` | takes an event off the queue |
| `handling`, and the sink is done | counts what became of the event |

A worker asks the bus for a publish when it comes to the event, and not before: between two strides
it may hold events of which none was asked for. A publish of somebody outside never looks at the
signal, and has no strides.
-/

import StatusRelay.World

namespace StatusRelay

/-- Asks a bus for the publish of an event, unless that was done before. -/
def Bus.pose (b : Bus) (ticket : Nat) (event : Event) : Bus :=
  if b.waiting.contains ticket then b else b.request ticket event

namespace World

/-! ### Workers -/

/-- A worker that has a permit asks the provider for events. -/
def callProvider (w : World) (task : Nat) (k : Worker) : World :=
  let k := { k with tally.cycles := k.tally.cycles + 1 }
  let w := w.note task .fetchBegan
  match w.providers[k.source]? with
  | none =>
    let k := { k with stage := .fetching w.now w.now (.events []) }
    (w.put task (.worker k)).setTimer task w.now
  | some p =>
    let fetch := p.fetch p.calls
    let w := { w with providers := w.providers.set k.source { p with calls := p.calls + 1 } }
    let due := w.now + fetch.delay
    (w.put task (.worker { k with stage := .fetching w.now due fetch.outcome })).setTimer task due

/-- A worker asks for a permit, and the provider for events when it gets one. -/
def strideAsking (w : World) (task : Nat) (k : Worker) : World :=
  let w := w.note task .asked
  if w.permits.closed then w.endWorker task k .cancelled
  else match w.permits.take? with
    | some permits => { w with permits := permits }.callProvider task k
    | none =>
      { w with permits := w.permits.join task }.put task (.worker { k with stage := .queued })

/-- A worker filters the events of a fetch, and holds those that are new. -/
def strideFiltering (w : World) (task : Nat) (k : Worker) (found : List Event) : World :=
  let (fresh, admission) := w.admission.filter found
  let duplicates := found.length - fresh.length
  let k := { k with
    tally.fetched := k.tally.fetched + found.length
    tally.duplicates := k.tally.duplicates + duplicates }
  let w := { w with admission := admission }.note task (.filtered k.name fresh duplicates)
  match fresh with
  | [] => w.sleep task k
  | _ => (w.put task (.worker { k with stage := .publishing fresh })).wake task

/-- A fetch comes to its end. The permit goes back first. -/
def strideFetched (w : World) (task : Nat) (k : Worker) (since : Nat) (outcome : FetchOutcome) :
    World :=
  let w := w.releasePermit.note task (.fetchEnded k.name (w.now - since) outcome)
  let k := if outcome.isFault then { k with tally.faults := k.tally.faults + 1 } else k
  match outcome with
  | .deadly => w.endWorker task k .died
  | _ => w.strideFiltering task k outcome.found

/-- Asks the bus for the publish of an event, unless that was done before. -/
def pose (w : World) (task : Nat) (event : Event) : World :=
  { w with bus := w.bus.pose task event }

/-- A worker publishes the first of its events. -/
def stridePublishing (w : World) (task : Nat) (k : Worker) : List Event → World
  | [] => w.sleep task k
  | e :: es =>
    match (w.pose task e).drive task e with
    | (w, none) => w.put task (.worker { k with stage := .publishing (e :: es) })
    | (w, some _) =>
      let k := { k with tally.published := k.tally.published + 1 }
      let w := w.note task (.published k.name e)
      match es with
      | [] => w.sleep task k
      | _ => (w.put task (.worker { k with stage := .publishing es })).wake task

/-- The stride of a worker. -/
def strideWorker (w : World) (task : Nat) (k : Worker) : World :=
  match k.stage with
  | .ready => w.strideAsking task k
  | .queued =>
    if w.permits.closed then w.endWorker task k .cancelled
    else match w.permits.collect? task with
      | some permits => { w with permits := permits }.callProvider task k
      | none => w
  | .fetching since due outcome =>
    if due ≤ w.now then w.strideFetched task k since outcome else w
  | .publishing pending => w.stridePublishing task k pending
  | .sleeping due => if due ≤ w.now then w.strideAsking task k else w
  | .cancelled | .died => w

/-! ### Consumers -/

/-- A consumer takes an event off its queue and hands it to the sink. -/
def strideReceiving (w : World) (task : Nat) (c : Consumer) : World :=
  match w.bus.take c.queue with
  | (.nothing, _, _) => w
  | (.closed, _, _) => w.endConsumer task c .ended
  | (.event e, bus, parties) =>
    let w := (w.withBus bus parties).note task (.taken e)
    let handling := c.sink.handle c.tally.received e
    let due := w.now + handling.delay
    let c := { c with
      stage := .handling e due handling.outcome
      tally.received := c.tally.received + 1 }
    (w.put task (.consumer c)).setTimer task due

/-- The sink of a consumer is done with an event. -/
def strideHandled (w : World) (task : Nat) (c : Consumer) (event : Event)
    (outcome : HandlingOutcome) : World :=
  let (w, c) := w.finishHandling task c event outcome
  if outcome = .deadly then w.endConsumer task c .died
  else (w.put task (.consumer c)).wake task

/-- The stride of a consumer. -/
def strideConsumer (w : World) (task : Nat) (c : Consumer) : World :=
  match c.stage with
  | .receiving => w.strideReceiving task c
  | .handling e due outcome => if due ≤ w.now then w.strideHandled task c e outcome else w
  | .ended | .died => w

/-! ### All tasks -/

/-- **The stride of a task** that has looked at the signal and found no stop. -/
def stride (w : World) (task : Nat) : World :=
  match w.tasks[task]? with
  | some (.worker k) => w.strideWorker task k
  | some (.consumer c) => w.strideConsumer task c
  | _ => w

end World
end StatusRelay
