/-
# Where a publish waits

A bounded bus holds a publisher back as soon as one queue is full, and lets it go on as soon as that
queue is not. Here is where the publishes stand when none of them can move:

| publish | waits for |
| --- | --- |
| the oldest | room in one queue, of a subscription that it found and that still exists |
| any other | the gate, in the order of the calls |

The slots that the oldest has reserved elsewhere hold nobody back: in the queue at which it waits it
has none, so this queue is full of events. On an unbounded bus nobody waits.
-/

import StatusRelay.Proofs.Bus.Delivery
import StatusRelay.Proofs.Bus.Settling
import Mathlib.Data.List.Induction

namespace StatusRelay
namespace Bus

/-- No publish under way can move when it is polled. -/
def Settled (b : Bus) : Prop := ∀ ticket ∈ b.waiting, (b.perform (.poll ticket)).2 = b

instance (b : Bus) : Decidable b.Settled := by
  unfold Settled
  infer_instance

/-- A publish that is polled goes on: to its end, or to one of these queues. -/
def GoesOn (b : Bus) (ticket : Nat) (ahead : List Nat) : Prop :=
  (∃ count, (b.perform (.poll ticket)).1 = .polled false (some count)) ∨
    ∃ r, (b.perform (.poll ticket)).2.gate = .reserving r ∧ r.request.ticket = ticket ∧
      r.ahead ≠ [] ∧ r.ahead <:+ ahead

variable {b : Bus}

/-! ### The capacity -/

theorem capacity_drive (hb : b.Sound) : b.drive.1.capacity = b.capacity := by
  rcases hr : b.start? with _ | r
  · rw [drive_of_free (start?_eq_none.1 hr)]
  · by_cases hw : b.aheadOf r = []
    · have hbare := congrArg Bus.capacity (hb.deliver hr hw).2.1
      exact hbare
    · have hbare := congrArg Bus.capacity (hb.wait hr hw).2.1
      exact hbare

/-- No operation changes the capacity. -/
theorem capacity_perform (hb : b.Sound) (op : Op) : (b.perform op).2.capacity = b.capacity := by
  cases op with
  | publish ticket event =>
    simp only [perform]
    split
    · unfold request
      split <;> rfl
    · rfl
  | poll ticket =>
    simp only [perform]
    split
    · exact capacity_drive hb
    · rfl
  | cancel ticket =>
    simp only [perform]
    rw [hb.cancel_eq]
  | subscribe =>
    simp only [perform]
    split
    · rcases hs : b.subscribe? with _ | ⟨id, b'⟩
      · rfl
      · obtain ⟨-, rfl⟩ := subscribe?_eq hs
        rfl
    · rfl
  | unsubscribe id =>
    simp only [perform]
    split <;> rfl
  | recv id | tryRecv id =>
    simp only [perform]
    split
    · rw [take_eq]
    · rfl
  | stats | close =>
    simp only [perform]
    split <;> rfl

/-! ### Where nothing can move -/

theorem mem_waiting_of_holder? {ticket : Nat} (h : b.gate.holder? = some ticket) :
    ticket ∈ b.waiting := by
  unfold waiting
  rw [h]
  exact List.mem_cons_self

/-- **If no publish moves when it is polled, none can.** -/
theorem Settled.still (hs : b.Settled) (hb : b.Sound) : b.Still := by
  rcases hr : b.start? with _ | r
  · exact Or.inl (start?_eq_none.1 hr)
  · have hholder : b.gate.holder? = some r.request.ticket := by
      rw [Gate.holder?_eq_map, publication?_of_start? hr]
      rfl
    have hsame : b.drive.1 = b := by
      have hpoll := hs _ (mem_waiting_of_holder? hholder)
      simp only [perform, if_pos hholder] at hpoll
      exact hpoll
    by_cases hw : b.aheadOf r = []
    · -- A publish that is completed leaves, so the bus would not be the same.
      obtain ⟨p, -, hp⟩ := hb.pending_drive_of_some (hb.deliver hr hw).1
      rw [hsame] at hp
      have hlen := congrArg List.length hp
      rw [List.length_cons] at hlen
      omega
    · obtain ⟨-, -, hg, hreach⟩ := hb.wait hr hw
      rw [hsame] at hg hreach
      exact Or.inr ⟨_, hg, hreach⟩

/-- In a queue that is still ahead of it, a publish has no slot. -/
theorem Sound.notMem_slots {r : Reservation} {id : Nat} (hb : b.Sound)
    (hg : b.gate = .reserving r) (hid : id ∈ r.ahead) : id ∉ b.slots := by
  have hnd := (hb.gate r hg).nodup
  unfold Reservation.targets at hnd
  rw [slots_reserving hg]
  intro hheld
  exact (List.nodup_append.1 hnd).2.2 id (List.mem_append_left _ hheld) id hid rfl

/-- **A publish that cannot move waits at a full queue.** -/
theorem Sound.full_of_reach {r : Reservation} (hb : b.Sound) (hg : b.gate = .reserving r)
    (hr : b.reach r = r) : ∃ c id ahead q, b.capacity = some c ∧ r.ahead = id :: ahead ∧
      b.queue? id = some q ∧ q.isOpen = true ∧ q.items.length = c := by
  have hs := hb.gate r hg
  obtain ⟨c, hc⟩ := Option.isSome_iff_exists.1 hs.bounded
  obtain ⟨id, ahead, ha⟩ := List.exists_cons_of_ne_nil hs.waits
  have hstop : b.passes id = false := by
    have hahead : r.ahead.dropWhile b.passes = r.ahead := congrArg Reservation.ahead hr
    rw [ha, List.dropWhile_cons] at hahead
    by_contra hpass
    rw [if_pos (by simpa using hpass)] at hahead
    have hlen := (List.dropWhile_suffix b.passes (l := ahead)).length_le
    rw [hahead, List.length_cons] at hlen
    omega
  unfold passes at hstop
  rw [hc] at hstop
  rcases hq : b.queue? id with _ | q
  · rw [hq] at hstop
    simp at hstop
  · obtain ⟨hmem, rfl⟩ := queue?_eq_some hq
    have hfree := hb.slots q hmem
    rw [if_neg (hb.notMem_slots hg (ha ▸ List.mem_cons_self))] at hfree
    have hroom := (hb.room c hc).2 q hmem
    simp only [hq, Queue.hasRoom, Bool.or_eq_false_iff, Bool.not_eq_false', decide_eq_false_iff_not,
      hfree, Nat.add_zero] at hstop hroom
    exact ⟨c, q.id, ahead, q, hc, ha, hq, hstop.1, by omega⟩

/-! ### Going on -/

/-- **A publish goes on** once it can pass the queue at which it waits. -/
theorem goesOn_of_passes {r : Reservation} {id : Nat} {ahead : List Nat} (hb : b.Sound)
    (hg : b.gate = .reserving r) (ha : r.ahead = id :: ahead) (hp : b.passes id = true) :
    b.GoesOn r.request.ticket ahead := by
  have hr := start?_reserving hg
  have hholder : b.gate.holder? = some r.request.ticket := by
    rw [hg]
    rfl
  have hgranted : b.gate.isGranted = false := by
    rw [hg]
    rfl
  have hsuffix : b.aheadOf r <:+ ahead := by
    unfold aheadOf
    rw [ha, List.dropWhile_cons, if_pos hp]
    exact List.dropWhile_suffix _
  unfold GoesOn
  simp only [perform, if_pos hholder, hgranted]
  by_cases hw : b.aheadOf r = []
  · rw [(hb.deliver hr hw).1]
    exact Or.inl ⟨_, rfl⟩
  · obtain ⟨-, -, hgate, -⟩ := hb.wait hr hw
    exact Or.inr ⟨_, hgate, rfl, hw, hsuffix⟩

/-- Receiving from a full queue makes room in it. -/
theorem passes_take_of_full {id c : Nat} {q : Queue} (hb : b.Sound) (hc : b.capacity = some c)
    (hq : b.queue? id = some q) (hfull : q.items.length = c) (hout : id ∉ b.slots) :
    (b.take id).2.1.passes id = true := by
  obtain ⟨hmem, rfl⟩ := queue?_eq_some hq
  have hpos := (hb.room c hc).1
  have hfree := hb.slots q hmem
  rw [if_neg hout] at hfree
  obtain ⟨e, es, hi⟩ := List.exists_cons_of_length_pos (hfull ▸ hpos)
  have hcap : (b.take q.id).2.1.capacity = some c := by
    rw [take_eq, hc]
  have hq' : (b.take q.id).2.1.queue? q.id = some { q with items := es } := by
    unfold take
    rw [hq]
    simp only [hi, modify_eq_modifyEach]
    rw [queue?_modifyEach (f := fun q => { q with items := es }) fun _ => rfl, hq]
    simp
  unfold passes
  rw [hcap, hq']
  simp only [Queue.hasRoom, hfree, Nat.add_zero, Bool.or_eq_true, decide_eq_true_eq]
  right
  rw [hi, List.length_cons] at hfull
  omega

/-- A queue without a subscription holds nobody back. -/
theorem passes_of_not_open {id : Nat} (h : b.isOpenAt id = false) : b.passes id = true := by
  unfold isOpenAt at h
  unfold passes
  rcases b.capacity with _ | c
  · rfl
  · rcases hq : b.queue? id with _ | q
    · rfl
    · rw [hq] at h
      simp only [h, Bool.not_false, Bool.true_or]

/-- The operations by which a subscriber makes room, or gives up its queue. -/
def Op.frees (id : Nat) (op : Op) : Prop := op = .recv id ∨ op = .tryRecv id ∨ op = .unsubscribe id

/-- **Whatever frees the queue at which a publish waits lets it go on.** -/
theorem Sound.goesOn_of_frees {r : Reservation} {id c : Nat} {ahead : List Nat} {q : Queue}
    (hb : b.Sound) (hg : b.gate = .reserving r) (ha : r.ahead = id :: ahead)
    (hc : b.capacity = some c) (hq : b.queue? id = some q) (ho : q.isOpen = true)
    (hfull : q.items.length = c) {op : Op} (hop : op.frees id) :
    (b.perform op).2.GoesOn r.request.ticket ahead := by
  have hopen : b.isOpenAt id = true := by
    unfold isOpenAt
    rw [hq]
    exact ho
  have hout := hb.notMem_slots hg (ha ▸ List.mem_cons_self)
  have htake : (b.take id).2.1.GoesOn r.request.ticket ahead := by
    refine goesOn_of_passes (hb.take id) ?_ ha (passes_take_of_full hb hc hq hfull hout)
    rw [take_eq]
    exact hg
  rcases hop with rfl | rfl | rfl
  · rw [Bus.perform, if_pos hopen]
    exact htake
  · rw [Bus.perform, if_pos hopen]
    exact htake
  · have hclosed : (b.unsubscribe id).1.isOpenAt id = false := by
      rw [← isSome_contents, contents_unsubscribe, if_pos rfl]
      rfl
    rw [Bus.perform, if_pos hopen]
    exact goesOn_of_passes (hb.unsubscribe id) hg ha (passes_of_not_open hclosed)

/-- **Whatever frees the queue names the publish that waits there,** so that it is polled. -/
theorem wakes_of_frees {r : Reservation} {id : Nat} {ahead : List Nat} {q : Queue}
    (hg : b.gate = .reserving r) (ha : r.ahead = id :: ahead) (hq : b.queue? id = some q)
    (hi : q.items ≠ []) : (b.take id).2.2 = [.publisher r.request.ticket] ∧
      (b.unsubscribe id).2 = [.publisher r.request.ticket] := by
  have hblocked : b.blockedAt id = [.publisher r.request.ticket] := by
    unfold blockedAt
    rw [hg]
    simp [ha]
  obtain ⟨e, es, hes⟩ := List.exists_cons_of_ne_nil hi
  refine ⟨?_, hblocked⟩
  unfold take
  rw [hq]
  simp only [hes]
  exact hblocked

end Bus

namespace Session

open Happening

theorem capacity_run (capacity : Option Nat) (ops : List Bus.Op) :
    (Session.run capacity ops).bus.capacity = capacity.map (max 1) := by
  induction ops using List.reverseRecOn with
  | nil => rfl
  | append_singleton ops op ih =>
    unfold Session.run at ih ⊢
    rw [List.foldl_append]
    have hs : Faithful (Session.run capacity ops) := Faithful.run capacity ops
    exact (Bus.capacity_perform hs.sound op).trans ih

/-- **Backpressure is exact.** At any moment, for any capacity and any operations: no queue has more
events and reserved slots than it can hold, and a queue that can hold nothing is made to hold one.
When no publish can move, and some are under way, the oldest has the gate and the others stand in
line in the order of the calls. The oldest waits at a queue of a subscription that is older than its
entry, that still exists, and that is full of events. To receive from this queue, or to give up the
subscription, has the publish polled, and then it is completed or comes to a later queue. On a bus
without a capacity no publish ever waits past the gate, and none is under way when none can move. -/
theorem backpressure_exact (capacity : Option Nat) (ops : List Bus.Op) :
    let s := Session.run capacity ops
    (∀ c, capacity = some c → ∀ q ∈ s.bus.queues, q.items.length + q.reserved ≤ max 1 c) ∧
    (s.bus.Settled → ∀ call p rest, s.pending = (call, p) :: rest →
      (s.bus.gate.publication? = some p ∧ s.bus.line = rest.map (·.2) ∧
        (call :: rest.map (·.1)).Pairwise (· < ·)) ∧
      ∃ c r id ahead q, (capacity = some c ∧ s.bus.gate = .reserving r ∧ r.ahead = id :: ahead) ∧
        .entered call ∈ since id s.past ∧
        (s.bus.queue? id = some q ∧ q.isOpen = true ∧ q.items.length = max 1 c) ∧
        ((s.bus.take id).2.2 = [.publisher p.ticket] ∧
          (s.bus.unsubscribe id).2 = [.publisher p.ticket]) ∧
        ∀ op : Bus.Op, op.frees id → (s.bus.perform op).2.GoesOn p.ticket ahead) ∧
    (capacity = none → (∀ r, s.bus.gate ≠ .reserving r) ∧ (s.bus.Settled → s.pending = [])) := by
  intro s
  have hs : Faithful s := Faithful.run capacity ops
  have hb := hs.sound
  have hcap : s.bus.capacity = capacity.map (max 1) := capacity_run capacity ops
  have hwaits : s.bus.Settled → s.pending ≠ [] → ∃ r, s.bus.gate = .reserving r ∧
      s.bus.reach r = r := by
    intro hsettled hne
    rcases hsettled.still hb with hg | hr
    · refine absurd ?_ hne
      rw [← List.map_eq_nil_iff, hs.line.pending]
      exact hb.pending_eq_nil_iff.2 hg
    · exact hr
  refine ⟨fun c hc q hq => ?_, fun hsettled call p rest hp => ?_, fun hc => ?_⟩
  · exact (hb.room (max 1 c) (by rw [hcap, hc]; rfl)).2 q hq
  · obtain ⟨r, hg, hreach⟩ := hwaits hsettled (by rw [hp]; simp)
    have hpending := hs.line.pending
    rw [hp, Bus.pending_of_start? (Bus.start?_reserving hg), List.map_cons] at hpending
    obtain ⟨hrequest, hline⟩ := List.cons.inj hpending
    obtain rfl : p = r.request := hrequest
    have hsorted := hs.line.sorted
    rw [hp, List.map_cons] at hsorted
    obtain ⟨c', id, ahead, q, hc', ha, hq, ho, hfull⟩ := hb.full_of_reach hg hreach
    obtain ⟨c, hc, rfl⟩ := Option.map_eq_some_iff.1 (hcap.symm.trans hc')
    refine ⟨⟨?_, hline.symm, hsorted⟩, c, r, id, ahead, q, ⟨hc, hg, ha⟩, ?_, ⟨hq, ho, hfull⟩, ?_,
      fun op hop => hb.goesOn_of_frees hg ha hc' hq ho hfull hop⟩
    · rw [hg]
      rfl
    · -- The queue is a target of the publish, and its subscription exists.
      obtain ⟨first, hfirst, -, -, htargets⟩ := hs.inside r hg
      rw [hp, List.head?_cons] at hfirst
      obtain rfl := Option.some.inj hfirst
      have hopen : s.bus.isOpenAt id = true := by
        unfold Bus.isOpenAt
        rw [hq]
        exact ho
      refine (htargets id hopen).1 ?_
      unfold Reservation.targets
      rw [ha]
      exact List.mem_append_right _ List.mem_cons_self
    · refine Bus.wakes_of_frees hg ha hq fun hnil => ?_
      rw [hnil, List.length_nil] at hfull
      omega
  · have hnone : ∀ r, s.bus.gate ≠ .reserving r := by
      intro r hg
      have hbounded := (hb.gate r hg).bounded
      rw [hcap, hc] at hbounded
      simp at hbounded
    refine ⟨hnone, fun hsettled => ?_⟩
    by_contra hne
    obtain ⟨r, hg, -⟩ := hwaits hsettled hne
    exact hnone r hg

/-- A queue made for nothing holds one event. The second publish waits for it, and the third for
the gate. -/
example :
    let event := fun id : String => (⟨id, "a", "", "", default⟩ : Event)
    let s := Session.run (some 0) [.subscribe, .publish 0 (event "1"), .poll 0,
      .publish 1 (event "2"), .publish 2 (event "3"), .poll 1]
    s.bus.Settled ∧ (s.bus.waiting, s.bus.itemsAt 0) = ([1, 2], [event "1"]) := by decide

end Session
end StatusRelay
