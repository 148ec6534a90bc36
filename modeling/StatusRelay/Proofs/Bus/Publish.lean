/-
# One drive of a publish

The publish that has the gate is driven on: it passes queues up to the first that is open and
full, and either waits there or, past the last, delivers to all queues that it holds. With
`heldBy r` and `goneBy r` for the queues that it has found open and closed by then, this is

| queues ahead of the reservation | result of `drive` | |
| --- | --- | --- |
| one of them is open and full | slots reserved in `heldBy r`, the gate kept | `drive_eq_wait` |
| none is | the event delivered to `heldBy r`, the gate passed on | `drive_eq_deliver` |

Both equations give the whole bus afterwards, from the bus before.
-/

import StatusRelay.Proofs.Bus.Queues
import Mathlib.Data.List.TakeWhile

namespace StatusRelay

namespace Gate

/-- The publish that has the gate. -/
def publication? : Gate → Option Publication
  | free => none
  | granted p => some p
  | reserving r => some r.request

theorem holder?_eq_map (g : Gate) : g.holder? = g.publication?.map (·.ticket) := by
  cases g <;> rfl

end Gate

namespace Queue

/-- A queue after a delivery to the queues that a publish holds. -/
def receive (event : Event) (held : List Nat) (q : Queue) : Queue := { q with
  items := if q.isOpen ∧ q.id ∈ held then q.items ++ [event] else q.items
  reserved := 0 }

end Queue

namespace Reservation

/-- The queues that a publish found registered when it got past the gate. -/
def targets (r : Reservation) : List Nat := r.held ++ r.gone ++ r.ahead

end Reservation

namespace Bus

/-- The publishes that are not completed: first the one that has the gate, then the line. -/
def pending (b : Bus) : List Publication := b.gate.publication?.toList ++ b.line

/-- The queues in which the publish at the gate has reserved a slot. -/
def slots (b : Bus) : List Nat :=
  match b.gate with
  | .reserving r => r.held
  | _ => []

theorem slots_reserving {b : Bus} {r : Reservation} (h : b.gate = .reserving r) :
    b.slots = r.held := by
  unfold slots
  rw [h]

theorem slots_eq_nil {b : Bus} (h : ∀ r, b.gate ≠ .reserving r) : b.slots = [] := by
  unfold slots
  split
  · exact absurd ‹_› (h _)
  · rfl

/-- The reservation with which the publish at the gate goes on. -/
def start? (b : Bus) : Option Reservation :=
  match b.gate with
  | .free => none
  | .granted p => some ⟨p, b.ids, [], []⟩
  | .reserving r => some r

theorem start?_reserving {b : Bus} {r : Reservation} (h : b.gate = .reserving r) :
    b.start? = some r := by
  unfold start?
  rw [h]

theorem waiting_eq (b : Bus) : b.waiting = b.pending.map (·.ticket) := by
  unfold waiting pending
  rw [Gate.holder?_eq_map, List.map_append]
  cases b.gate.publication? <;> rfl

/-- The publish that a drive moves is the one that has the gate. -/
theorem publication?_of_start? {b : Bus} {r : Reservation} (h : b.start? = some r) :
    b.gate.publication? = some r.request := by
  unfold start? at h
  split at h
  · simp at h
  · rename_i p hg
    obtain rfl := Option.some.inj h
    rw [hg]
    rfl
  · rename_i r' hg
    obtain rfl := Option.some.inj h
    rw [hg]
    rfl

theorem pending_of_start? {b : Bus} {r : Reservation} (h : b.start? = some r) :
    b.pending = r.request :: b.line := by
  unfold pending
  rw [publication?_of_start? h]
  rfl

theorem filter_ticket_of_notMem {l : List Publication} {ticket : Nat}
    (h : ticket ∉ l.map (·.ticket)) : l.filter (·.ticket != ticket) = l := by
  refine List.filter_eq_self.2 fun p hp => ?_
  simpa using ne_of_mem_of_not_mem (List.mem_map_of_mem hp) h

/-- The publish that has the gate is the first of those under way. -/
theorem pending_of_holder? {b : Bus} {ticket : Nat} (h : b.gate.holder? = some ticket) :
    ∃ p, p.ticket = ticket ∧ b.pending = p :: b.line := by
  rw [Gate.holder?_eq_map] at h
  obtain ⟨p, hp, ht⟩ := Option.map_eq_some_iff.1 h
  refine ⟨p, ht, ?_⟩
  unfold pending
  rw [hp]
  rfl

theorem pending_passGate (b : Bus) : b.passGate.1.pending = b.line := by
  unfold passGate
  split
  · rename_i hl
    simp [pending, Gate.publication?, hl]
  · rename_i hl
    simp [pending, Gate.publication?, hl]

/-- Passing the gate on changes the gate and the line. -/
theorem passGate_eq (b : Bus) :
    b.passGate.1 = { b with gate := b.passGate.1.gate, line := b.passGate.1.line } := by
  unfold passGate
  split
  · rename_i hl
    rw [hl]
  · rfl

theorem gate_passGate_ne (b : Bus) (r : Reservation) : b.passGate.1.gate ≠ .reserving r := by
  unfold passGate
  split <;> simp

theorem start?_eq_none {b : Bus} : b.start? = none ↔ b.gate = .free := by
  unfold start?
  split <;> simp [*]

/-- The queues that a publish holds once it has passed all that it can pass. -/
def heldBy (b : Bus) (r : Reservation) : List Nat :=
  r.held ++ (r.ahead.takeWhile b.passes).filter b.takes

/-- The queues that a publish has then found without a subscription. -/
def goneBy (b : Bus) (r : Reservation) : List Nat :=
  r.gone ++ (r.ahead.takeWhile b.passes).filter fun id => !b.takes id

/-- The queues that a publish then still has ahead of it. -/
def aheadOf (b : Bus) (r : Reservation) : List Nat := r.ahead.dropWhile b.passes

/-- A bus without its reserved slots. -/
def release (b : Bus) : Bus := { b with queues := b.queues.map fun q => { q with reserved := 0 } }

theorem aheadOf_of_unbounded {b : Bus} (h : b.capacity = none) (r : Reservation) :
    b.aheadOf r = [] :=
  List.dropWhile_eq_nil_iff.2 fun id _ => passes_of_unbounded h id

/-- The queues that are removed when a publish is completed. -/
def removedBy (b : Bus) (r : Reservation) : List Nat :=
  b.goneBy r ++ (b.heldBy r).filter fun id => !b.counts id

/-- A bus after a delivery, with the gate not yet passed on. -/
def deliver (b : Bus) (r : Reservation) : Bus := { b with
  queues := (b.queues.filter fun q => !(b.removedBy r).contains q.id).map
    (Queue.receive r.request.event (b.heldBy r))
  stats := {
    published := b.stats.published + 1
    deliveries := b.stats.deliveries + ((b.heldBy r).filter b.counts).length
    pruned := b.stats.pruned + (b.removedBy r).length } }

theorem reserve_start (b : Bus) {r : Reservation} (h : r.ahead.Nodup) :
    b.reserve r.request r.held r.gone r.ahead =
      (b.hold ((r.ahead.takeWhile b.passes).filter b.takes),
        ⟨r.request, b.aheadOf r, b.heldBy r, b.goneBy r⟩) :=
  reserve_eq r.request h (fun _ _ => rfl) (fun _ _ => rfl) r.held r.gone

theorem hold_eq (b : Bus) (held : List Nat) : b.hold held = { b with
    queues := b.queues.map fun q => if b.capacity.isSome ∧ q.id ∈ held then addSlot q else q } := by
  unfold hold
  split
  · rename_i h
    simp [modifyEach, h]
  · rename_i h
    simp [h]

theorem ids_hold (b : Bus) (held : List Nat) : (b.hold held).ids = b.ids := by
  unfold hold
  split
  · exact ids_modifyEach (f := addSlot) (fun _ => rfl) held
  · rfl

/-- Only where a slot is reserved a queue of a bounded bus changes. -/
theorem mem_queues_hold {b : Bus} {c : Nat} (hc : b.capacity = some c) {held : List Nat}
    {q : Queue} (hq : q ∈ (b.hold held).queues) :
    ∃ p ∈ b.queues, q = if p.id ∈ held then addSlot p else p := by
  have hbounded : b.capacity.isSome = true := by simp [hc]
  unfold hold at hq
  rw [if_pos hbounded] at hq
  obtain ⟨p, hp, rfl⟩ := mem_modifyEach.1 hq
  exact ⟨p, hp, rfl⟩

theorem isOpenAt_hold (b : Bus) (held : List Nat) (id : Nat) :
    (b.hold held).isOpenAt id = b.isOpenAt id := by
  unfold hold isOpenAt
  by_cases hc : b.capacity.isSome
  · rw [if_pos hc, queue?_modifyEach (f := addSlot) fun _ => rfl]
    rcases b.queue? id with _ | q
    · rfl
    · by_cases h : q.id ∈ held
      · simp [h, addSlot]
      · simp [h]
  · rw [if_neg hc]

theorem counts_eq (b : Bus) (id : Nat) : b.counts id = (b.capacity.isSome || b.isOpenAt id) := by
  unfold counts isOpenAt
  rcases b.capacity with _ | c <;> rfl

theorem counts_hold (b : Bus) (held : List Nat) : (b.hold held).counts = b.counts := by
  funext id
  rw [counts_eq, counts_eq, capacity_hold, isOpenAt_hold]

/-- Fills a slot of a queue. -/
def fillSlot (event : Event) (q : Queue) : Queue := { q with
  items := if q.isOpen then q.items ++ [event] else q.items
  reserved := q.reserved - 1 }

/-- **All slots are filled at once.** -/
theorem foldl_fill (b : Bus) (event : Event) {held : List Nat} (h : held.Nodup) :
    held.foldl (fun b id => b.fill event id) b = b.modifyEach held (fillSlot event) :=
  foldl_modify (f := fillSlot event) (fun _ => rfl) h b

theorem drive_of_free {b : Bus} (h : b.gate = .free) : b.drive = (b, none, []) := by
  unfold drive
  rw [h]

/-- A drive is the first phase, and then either a wait or the second phase. -/
theorem drive_of_start? {b : Bus} {r : Reservation} (hr : b.start? = some r) :
    b.drive =
      match b.reserve r.request r.held r.gone r.ahead with
      | (b', r') =>
        match r'.ahead with
        | [] =>
          let (b'', delivered, wakes) := b'.complete r'
          (b'', some (r'.request.ticket, delivered), wakes)
        | _ => ({ b' with gate := .reserving r' }, none, []) := by
  unfold start? at hr
  unfold drive
  rcases hg : b.gate with _ | p | r' <;> rw [hg] at hr
  · simp at hr
  · obtain rfl := Option.some.inj hr
    rfl
  · obtain rfl := Option.some.inj hr
    rfl

/-- **A publish that has to wait** keeps the gate, and the slots that it could reserve. -/
theorem drive_eq_wait {b : Bus} {r : Reservation} (hr : b.start? = some r) (h : r.ahead.Nodup)
    (hw : b.aheadOf r ≠ []) :
    b.drive = ({ b.hold ((r.ahead.takeWhile b.passes).filter b.takes) with
      gate := .reserving ⟨r.request, b.aheadOf r, b.heldBy r, b.goneBy r⟩ }, none, []) := by
  obtain ⟨id, ahead, ha⟩ := List.exists_cons_of_ne_nil hw
  rw [drive_of_start? hr, b.reserve_start h, ha]

/-- A publish that can pass all queues is completed. -/
theorem drive_eq_complete {b : Bus} {r : Reservation} (hr : b.start? = some r)
    (h : r.ahead.Nodup) (hw : b.aheadOf r = []) :
    b.drive =
      let (b', count, wakes) := (b.hold ((r.ahead.takeWhile b.passes).filter b.takes)).complete
        ⟨r.request, [], b.heldBy r, b.goneBy r⟩
      (b', some (r.request.ticket, count), wakes) := by
  rw [drive_of_start? hr, b.reserve_start h, hw]

end Bus
end StatusRelay
