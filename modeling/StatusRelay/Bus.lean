/-
# The event bus

The bus copies every published event into the queue of each subscription. It keeps two promises:
all subscribers see events in one order, and a publish that is given up while it waits leaves no
trace.

**One order.** Publishes pass a gate one at a time, in the order in which they were requested.

**No trace.** A publish has two phases. In the first it goes through the queues that are
registered when it gets the gate, in the order of subscription, and reserves one slot in each; at
a full queue it waits there with the gate and the slots it has. In the second, which nothing
interrupts, it fills all its slots. A queue whose subscription is gone is passed over and removed
from the register at the end.

| queue | in the first phase | in the second phase |
| --- | --- | --- |
| bounded, open, with room | slot reserved | delivered, counted |
| bounded, open, full | the publish waits | |
| bounded, subscription gone | passed over | removed |
| bounded, gone after its slot was reserved | | counted, to nobody; removed by the next publish |
| unbounded, open | | delivered, counted |
| unbounded, subscription gone | | removed |

The operations answer with the parties that they may have set going: the publish that can move
on, and the receivers that have an event or learn that no more will come.
-/

import StatusRelay.Event

namespace StatusRelay

/-- The queue of one subscription. -/
structure Queue where
  id : Nat
  /-- Whether the subscription still exists. -/
  isOpen : Bool
  /-- Events delivered and not yet received, the oldest first. -/
  items : List Event
  /-- Slots that the publish at the gate has reserved. -/
  reserved : Nat
  deriving DecidableEq, Repr, Inhabited

namespace Queue

/-- Whether a slot can be reserved. -/
def hasRoom (capacity : Option Nat) (q : Queue) : Bool :=
  match capacity with
  | none => true
  | some c => q.items.length + q.reserved < c

end Queue

/-- An event that is to be published. -/
structure Publication where
  /-- The number by which the publish is known. -/
  ticket : Nat
  event : Event
  deriving DecidableEq, Repr, Inhabited

/-- A publish in its first phase. -/
structure Reservation where
  request : Publication
  /-- Queues still to visit, by their numbers. -/
  ahead : List Nat
  /-- Queues that it will deliver to, in the order of its visits. -/
  held : List Nat
  /-- Queues found without a subscription. -/
  gone : List Nat
  deriving DecidableEq, Repr, Inhabited

/-- The gate that publishes pass one at a time. -/
inductive Gate where
  | free
  /-- Given to a publish that has not moved since. -/
  | granted (r : Publication)
  | reserving (r : Reservation)
  deriving DecidableEq, Repr, Inhabited

namespace Gate

/-- The ticket of the publish that has the gate. -/
def holder? : Gate → Option Nat
  | free => none
  | granted r => some r.ticket
  | reserving r => some r.request.ticket

end Gate

/-- What a bus has done so far. -/
structure BusStats where
  /-- Publishes completed. -/
  published : Nat := 0
  /-- Events placed in queues. -/
  deliveries : Nat := 0
  /-- Queues removed because their subscription was gone. -/
  pruned : Nat := 0
  deriving DecidableEq, Repr, Inhabited

/-- Who may be able to go on after an operation. -/
inductive Wake where
  | publisher (ticket : Nat)
  | receiver (queue : Nat)
  deriving DecidableEq, Repr

/-- The bus. -/
structure Bus where
  /-- How many events a queue holds; no limit if absent. -/
  capacity : Option Nat
  /-- The registered queues, in the order of subscription. -/
  queues : List Queue
  /-- The number of the next subscription. -/
  nextId : Nat
  gate : Gate
  /-- Publishes that wait for the gate, in the order of their requests. -/
  line : List Publication
  stats : BusStats
  /-- Whether anyone can still publish or subscribe. -/
  isOpen : Bool
  deriving DecidableEq, Repr, Inhabited

namespace Bus

/-- A bus whose queues hold at most so many events. A queue has to hold the event that is being
delivered, so a limit of zero counts as one. -/
def new (capacity : Option Nat) : Bus where
  capacity := capacity.map (max 1)
  queues := []
  nextId := 0
  gate := .free
  line := []
  stats := {}
  isOpen := true

/-- The largest number of events that a bounded queue can be made for. -/
def maxCapacity : Nat := 2305843009213693951

/-- The queue with a number. -/
def queue? (b : Bus) (id : Nat) : Option Queue := b.queues.find? fun q => q.id == id

/-- Changes the queue with a number. -/
def modify (b : Bus) (id : Nat) (f : Queue → Queue) : Bus :=
  { b with queues := b.queues.map fun q => if q.id = id then f q else q }

/-- The number of subscriptions that exist. -/
def subscriberCount (b : Bus) : Nat := (b.queues.filter (·.isOpen)).length

/-- Whether a publish is under way or waits for the gate. -/
def isBusy (b : Bus) : Bool := b.gate.holder?.isSome

/-- Whether nobody can publish any more. -/
def isGone (b : Bus) : Bool := !b.isOpen && !b.isBusy && b.line.isEmpty

/-- The receivers, once nobody can publish any more. -/
def farewell (b : Bus) : List Wake :=
  if b.isGone then (b.queues.filter (·.isOpen)).map fun q => .receiver q.id else []

/-- Makes a new queue. The result is its number; there is none when the bus is made for more
events than a queue can hold. -/
def subscribe? (b : Bus) : Option (Nat × Bus) :=
  if (b.capacity.getD 0) ≤ maxCapacity then
    some (b.nextId, { b with
      queues := b.queues ++ [⟨b.nextId, true, [], 0⟩]
      nextId := b.nextId + 1 })
  else none

/-! ### Publishing -/

/-- Asks for the gate on behalf of a new publish. -/
def request (b : Bus) (ticket : Nat) (event : Event) : Bus :=
  match b.gate with
  | .free => { b with gate := .granted ⟨ticket, event⟩ }
  | _ => { b with line := b.line ++ [⟨ticket, event⟩] }

/-- Gives the gate to the next publish in line. -/
def passGate (b : Bus) : Bus × List Wake :=
  match b.line with
  | [] => ({ b with gate := .free }, [])
  | r :: rest => ({ b with gate := .granted r, line := rest }, [.publisher r.ticket])

/-- The first phase from the queue `ahead.head` on: every queue up to the first full one. -/
def reserve (b : Bus) (request : Publication) (held gone : List Nat) :
    List Nat → Bus × Reservation
  | [] => (b, ⟨request, [], held, gone⟩)
  | id :: ahead =>
    match b.capacity, b.queue? id with
    | none, _ => reserve b request (held ++ [id]) gone ahead
    | some _, none => reserve b request held (gone ++ [id]) ahead
    | some _, some q =>
      if q.isOpen then
        if q.hasRoom b.capacity then
          reserve (b.modify id fun q => { q with reserved := q.reserved + 1 }) request
            (held ++ [id]) gone ahead
        else (b, ⟨request, id :: ahead, held, gone⟩)
      else reserve b request held (gone ++ [id]) ahead

/-- Whether a delivery to a queue is counted: always where a slot was reserved, and on an
unbounded queue while its subscription exists. -/
def counts (b : Bus) (id : Nat) : Bool :=
  match b.capacity with
  | some _ => true
  | none => match b.queue? id with
    | some q => q.isOpen
    | none => false

/-- Fills the slot in a queue. What goes to a queue without a subscription is lost. -/
def fill (b : Bus) (event : Event) (id : Nat) : Bus :=
  b.modify id fun q => { q with
    items := if q.isOpen then q.items ++ [event] else q.items
    reserved := q.reserved - 1 }

/-- The second phase. The result holds the number of deliveries. -/
def complete (b : Bus) (r : Reservation) : Bus × Nat × List Wake :=
  let delivered := (r.held.filter b.counts).length
  let gone := r.gone ++ r.held.filter fun id => !b.counts id
  let b' := r.held.foldl (fun b id => b.fill r.request.event id) b
  let receivers := (b'.queues.filter fun q => q.isOpen && r.held.contains q.id).map
    fun q => Wake.receiver q.id
  let b' := { b' with
    queues := b'.queues.filter fun q => !gone.contains q.id
    stats := {
      published := b.stats.published + 1
      deliveries := b.stats.deliveries + delivered
      pruned := b.stats.pruned + gone.length } }
  let (b', next) := b'.passGate
  (b', delivered, receivers ++ next ++ b'.farewell)

/-- Moves the publish that has the gate on as far as it can go: to the queue at which it has to
wait, or to its end. In the second case the result holds its ticket and its deliveries. -/
def drive (b : Bus) : Bus × Option (Nat × Nat) × List Wake :=
  let go (b : Bus) (r : Reservation) : Bus × Option (Nat × Nat) × List Wake :=
    let (b, r) := b.reserve r.request r.held r.gone r.ahead
    match r.ahead with
    | [] =>
      let (b, delivered, wakes) := b.complete r
      (b, some (r.request.ticket, delivered), wakes)
    | _ => ({ b with gate := .reserving r }, none, [])
  match b.gate with
  | .free => (b, none, [])
  | .granted r => go b ⟨r, b.queues.map (·.id), [], []⟩
  | .reserving r => go b r

/-- Moves publishes on until none can move. The result holds those that were completed, in
order, with their deliveries; `most` bounds their number. -/
def settleAt (b : Bus) : Nat → Bus × List (Nat × Nat)
  | 0 => (b, [])
  | most + 1 =>
    match b.drive with
    | (b, none, _) => (b, [])
    | (b, some done, _) =>
      let (b, more) := settleAt b most
      (b, done :: more)

/-- Moves publishes on until none can move. -/
def settle (b : Bus) : Bus × List (Nat × Nat) := b.settleAt (b.line.length + 1)

/-- The tickets of the publishes that are not completed, in the order of their requests. -/
def waiting (b : Bus) : List Nat := b.gate.holder?.toList ++ b.line.map (·.ticket)

/-- Gives up a publish that is not completed. The slots it has reserved become free, and so does
its place at the gate or in the line. The answer is whether there was such a publish. -/
def cancel (b : Bus) (ticket : Nat) : Bool × Bus × List Wake :=
  let leave (held : List Nat) : Bool × Bus × List Wake :=
    let b := held.foldl
      (fun b id => b.modify id fun q => { q with reserved := q.reserved - 1 }) b
    let (b, next) := b.passGate
    (true, b, next ++ b.farewell)
  if b.gate.holder? = some ticket then
    match b.gate with
    | .reserving r => leave (if b.capacity.isSome then r.held else [])
    | _ => leave []
  else if b.line.any (·.ticket == ticket) then
    let b := { b with line := b.line.filter (·.ticket != ticket) }
    (true, b, b.farewell)
  else (false, b, [])

/-! ### Subscriptions -/

/-- The publish that waits at a queue. -/
def blockedAt (b : Bus) (id : Nat) : List Wake :=
  match b.gate with
  | .reserving r => if r.ahead.head? = some id then [.publisher r.request.ticket] else []
  | _ => []

/-- What a receiver finds. -/
inductive Taken where
  | event (e : Event)
  /-- No event yet. -/
  | nothing
  /-- No event, and there will be none. -/
  | closed
  deriving DecidableEq, Repr

/-- Receives the oldest event of a queue, if there is one. -/
def take (b : Bus) (id : Nat) : Taken × Bus × List Wake :=
  match b.queue? id with
  | some q =>
    match q.items with
    | e :: rest => (.event e, b.modify id fun q => { q with items := rest }, b.blockedAt id)
    | [] => (if b.isGone then .closed else .nothing, b, [])
  | none => (.closed, b, [])

/-- Receives all events of a queue that are there. -/
def drain (b : Bus) (id : Nat) : List Event × Bus × List Wake :=
  match b.queue? id with
  | some q =>
    (q.items, b.modify id fun q => { q with items := [] },
      if q.items.isEmpty then [] else b.blockedAt id)
  | none => ([], b, [])

/-- Gives up a subscription. Its queue stays registered until a publish finds it. -/
def unsubscribe (b : Bus) (id : Nat) : Bus × List Wake :=
  (b.modify id fun q => { q with isOpen := false, items := [] }, b.blockedAt id)

/-- Lets go of the bus. Publishes that are under way go on to their end. -/
def close (b : Bus) : Bus × List Wake :=
  let b := { b with isOpen := false }
  (b, b.farewell)

/-! ### As a developer sees it -/

/-- A bus in writing. -/
def describe (b : Bus) : String :=
  let capacity := match b.capacity with
    | none => "None"
    | some c => "Some(" ++ toString c ++ ")"
  "EventBus \x7b capacity: " ++ capacity ++ ", subscribers: " ++ toString b.subscriberCount ++
    " \x7d"

/-- A subscription in writing. -/
def describeSubscription (id : Nat) : String :=
  "Subscription \x7b id: " ++ toString id ++ " \x7d"

/-- What is said of a bus whose queues cannot be made. -/
def capacityMessage : String :=
  "a semaphore may not have more than MAX_PERMITS permits (" ++ toString maxCapacity ++ ")"

end Bus
end StatusRelay
