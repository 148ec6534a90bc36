/-
# Sessions with a bus

A session is a list of operations on one bus, in any order. Publishes are known by tickets, which
their callers choose; a ticket is free again once its publish is completed or given up.

| operation | reply |
| --- | --- |
| `publish` | `done`, or `refused` on a closed bus or under a ticket in use |
| `poll` | whether the publish got past the gate, and its deliveries if it was completed |
| `cancel` | whether there was such a publish |
| `subscribe` | the number of the new queue |
| `recv`, `tryRecv` | what was found, `refused` without a subscription |
| `stats` | the counters, nothing while a publish is inside |

A publish moves only when it is polled, and any publish can be polled at any moment; so between
two polls of one publish there can be any other operations. A *settled* session, `runSettled`,
polls the publishes after every operation until none of them can move.

Beside the bus a session keeps what happened, in order. It is read off the replies alone. Every
publish called has a number there, from zero in the order of the calls.
-/

import StatusRelay.Proofs.Bus.Sound

namespace StatusRelay

namespace Gate

/-- Whether the gate has been given to a publish that has not moved since. -/
def isGranted : Gate → Bool
  | granted _ => true
  | _ => false

end Gate

namespace Bus

/-- The event that a receiver found. -/
def Taken.event? : Taken → Option Event
  | .event e => some e
  | _ => none

/-- What can be done with a bus. -/
inductive Op where
  | publish (ticket : Nat) (event : Event)
  /-- Lets a publish go on as far as it can. -/
  | poll (ticket : Nat)
  | cancel (ticket : Nat)
  | subscribe
  | unsubscribe (id : Nat)
  | recv (id : Nat)
  | tryRecv (id : Nat)
  | stats
  | close
  deriving DecidableEq, Repr

/-- What is answered. -/
inductive Reply where
  | refused
  | done
  | polled (entered : Bool) (count : Option Nat)
  | cancelled (was : Bool)
  | subscribed (id : Nat)
  /-- The queue cannot be made. -/
  | crashed
  | received (found : Taken)
  | tried (found : Option Event)
  | counted (stats : Option BusStats)
  deriving DecidableEq, Repr

/-- One operation. -/
def perform (b : Bus) : Op → Reply × Bus
  | .publish ticket event =>
    if b.isOpen ∧ ticket ∉ b.waiting then (.done, b.request ticket event) else (.refused, b)
  | .poll ticket =>
    if b.gate.holder? = some ticket then
      (.polled b.gate.isGranted (b.drive.2.1.map (·.2)), b.drive.1)
    else (.polled false none, b)
  | .cancel ticket => (.cancelled (b.cancel ticket).1, (b.cancel ticket).2.1)
  | .subscribe =>
    if b.isOpen then
      match b.subscribe? with
      | some (id, b) => (.subscribed id, b)
      | none => (.crashed, b)
    else (.refused, b)
  | .unsubscribe id =>
    if b.isOpenAt id then (.done, (b.unsubscribe id).1) else (.refused, b)
  | .recv id =>
    if b.isOpenAt id then (.received (b.take id).1, (b.take id).2.1) else (.refused, b)
  | .tryRecv id =>
    if b.isOpenAt id then (.tried (b.take id).1.event?, (b.take id).2.1) else (.refused, b)
  | .stats => if b.isOpen then (.counted (if b.isBusy then none else some b.stats), b)
    else (.refused, b)
  | .close => if b.isOpen then (.done, b.close.1) else (.refused, b)

/-- The bus after operations. -/
def run (b : Bus) (ops : List Op) : Bus := ops.foldl (fun b op => (b.perform op).2) b

/-- **Every operation keeps a bus sound.** -/
theorem Sound.perform {b : Bus} (hb : b.Sound) (op : Op) : (b.perform op).2.Sound := by
  cases op with
  | publish ticket event =>
    simp only [Bus.perform]
    split
    · rename_i h
      exact hb.request event h.2
    · exact hb
  | poll ticket =>
    simp only [Bus.perform]
    split
    · exact hb.drive
    · exact hb
  | cancel ticket => exact hb.cancel ticket
  | subscribe =>
    simp only [Bus.perform]
    split
    · rcases h : b.subscribe? with _ | ⟨id, b'⟩
      · exact hb
      · exact hb.subscribe h
    · exact hb
  | unsubscribe id =>
    simp only [Bus.perform]
    split
    · exact hb.unsubscribe id
    · exact hb
  | recv id | tryRecv id =>
    simp only [Bus.perform]
    split
    · exact hb.take id
    · exact hb
  | stats =>
    simp only [Bus.perform]
    split <;> exact hb
  | close =>
    simp only [Bus.perform]
    split
    · exact hb.close
    · exact hb

/-- **A bus is sound at every moment.** -/
theorem Sound.run {b : Bus} (hb : b.Sound) (ops : List Op) : (b.run ops).Sound := by
  induction ops generalizing b with
  | nil => exact hb
  | cons op ops ih => exact ih (hb.perform op)

/-! ### Settled sessions -/

/-- One operation, after which publishes move on until none can. The result holds the reply and
the publishes that were completed, with their deliveries. -/
def performSettled (b : Bus) (op : Op) : (Reply × List (Nat × Nat)) × Bus :=
  let (reply, b) := b.perform op
  let (b, done) := b.settle
  ((reply, done), b)

/-- The replies and the bus after operations, each followed by a settling. -/
def runSettled (b : Bus) : List Op → List (Reply × List (Nat × Nat)) × Bus
  | [] => ([], b)
  | op :: ops =>
    let (reply, b) := b.performSettled op
    let (replies, b) := b.runSettled ops
    (reply :: replies, b)

end Bus

/-! ### What happened -/

/-- Something that happened to a bus. -/
inductive Happening where
  | called (call : Nat) (event : Event)
  /-- A publish got past the gate. -/
  | entered (call : Nat)
  | completed (call count : Nat)
  | cancelled (call : Nat)
  | subscribed (id : Nat)
  | received (id : Nat) (event : Event)
  | dropped (id : Nat)
  /-- The bus was let go of. -/
  | closed
  deriving DecidableEq, Repr

namespace Happening

/-- The publishes called, with their events. -/
def calls (past : List Happening) : List (Nat × Event) :=
  past.filterMap fun
    | called call event => some (call, event)
    | _ => none

/-- The publishes that got past the gate, in that order. -/
def entries (past : List Happening) : List Nat :=
  past.filterMap fun
    | entered call => some call
    | _ => none

/-- Whether a publish was completed. -/
def isDone (past : List Happening) (call : Nat) : Bool :=
  past.any fun
    | completed call' _ => call' == call
    | _ => false

/-- The events received through a subscription. -/
def receivedBy (id : Nat) (past : List Happening) : List Event :=
  past.filterMap fun
    | received id' event => if id' = id then some event else none
    | _ => none

/-- Whether a subscription exists: it was made and not dropped. -/
def isSubscribed (past : List Happening) (id : Nat) : Bool :=
  past.contains (subscribed id) && !past.contains (dropped id)

/-- What happened before a subscription was made. -/
def before (id : Nat) (past : List Happening) : List Happening :=
  past.takeWhile (· != subscribed id)

/-- What happened after a subscription was made. -/
def since (id : Nat) (past : List Happening) : List Happening :=
  (past.dropWhile (· != subscribed id)).tail

/-- Whether a publish is due to a subscription: it is completed, and it got past the gate after
the subscription was made. -/
def isDue (id : Nat) (past : List Happening) (call : Nat) : Bool :=
  (since id past).contains (entered call) && isDone past call

/-- The events of the publishes due to a subscription, in the order in which these were called. -/
def due (id : Nat) (past : List Happening) : List Event :=
  ((calls past).filter fun c => isDue id past c.1).map (·.2)

end Happening

/-- A bus with what happened to it. -/
structure Session where
  bus : Bus
  /-- How many publishes have been called. -/
  calls : Nat := 0
  /-- The publishes under way, with their numbers. -/
  pending : List (Nat × Publication) := []
  past : List Happening := []

namespace Session

/-- Records something. -/
def note (s : Session) (h : Happening) : Session := { s with past := s.past ++ [h] }

/-- Records what a reply says of the publish at the gate. -/
def noteMove (s : Session) (entered : Bool) (count : Option Nat) : Session :=
  match s.pending with
  | [] => s
  | (call, _) :: rest =>
    let s := if entered then s.note (.entered call) else s
    match count with
    | none => s
    | some n => { s with pending := rest }.note (.completed call n)

/-- Records what an operation and its reply say. -/
def record (s : Session) : Bus.Op → Bus.Reply → Session
  | .publish ticket event, .done =>
    { s with
      calls := s.calls + 1
      pending := s.pending ++ [(s.calls, Publication.mk ticket event)] }.note
      (.called s.calls event)
  | .poll _, .polled entered count => s.noteMove entered count
  | .cancel ticket, .cancelled true => { s with
    pending := s.pending.filter (·.2.ticket != ticket)
    past := s.past ++ (s.pending.filter (·.2.ticket == ticket)).map fun c => .cancelled c.1 }
  | .subscribe, .subscribed id => s.note (.subscribed id)
  | .unsubscribe id, .done => s.note (.dropped id)
  | .recv id, .received (.event e) => s.note (.received id e)
  | .tryRecv id, .tried (some e) => s.note (.received id e)
  | .close, .done => s.note .closed
  | _, _ => s

/-- One operation. -/
def step (s : Session) (op : Bus.Op) : Session :=
  { s.record op (s.bus.perform op).1 with bus := (s.bus.perform op).2 }

/-- A new bus after operations. -/
def run (capacity : Option Nat) (ops : List Bus.Op) : Session :=
  ops.foldl step { bus := .new capacity }

/-- What a subscription has received, and what is still in its queue. -/
def history (s : Session) (id : Nat) : List Event :=
  Happening.receivedBy id s.past ++ s.bus.itemsAt id

end Session
end StatusRelay
