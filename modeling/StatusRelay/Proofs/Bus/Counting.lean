/-
# What a publish counts

A publish looks at the register once, when it gets past the gate, and delivers later. In between,
subscriptions come and go. It tells how many deliveries it made; this is compared with the queues
that it found registered, its *snapshot*, and with the subscriptions that exist when it delivers.

| queue of the snapshot, at the delivery | counted | afterwards |
| --- | --- | --- |
| subscription exists | yes | holds the event |
| dropped before its slot was reserved | no | removed |
| dropped on an unbounded bus | no | removed |
| dropped after its slot was reserved | yes | still registered |

The last line is the exception: an event is counted that nobody gets. `Bus.late` names its queues.
-/

import StatusRelay.Proofs.Bus.Backpressure
import StatusRelay.Proofs.Bus.Contents
import StatusRelay.Proofs.Bus.Session
import Mathlib.Data.List.Induction
import Mathlib.Data.List.Infix
import Mathlib.Data.List.Perm.Basic

namespace StatusRelay
namespace Bus

variable {b : Bus} {r : Reservation}

/-- The queues in which the publish at the gate has a slot, and whose subscriptions are gone. -/
def late (b : Bus) : List Nat := b.slots.filter fun id => !b.isOpenAt id

/-- A publish gets past the gate when it is polled first, and has waited at a queue after every
operation since then. If nothing was done since the gate was given to it, it has not moved yet. -/
structure Inside (b : Bus) (p : Publication) (since : List Op) : Prop where
  granted : b.gate = .granted p
  first : ∀ op ∈ since.head?, op = .poll p.ticket
  waits : ∀ ops, ops <+: since → ops ≠ [] → ∃ r, (b.run ops).gate = .reserving r ∧ r.request = p

/-! ### One operation -/

/-- A publish that waits at a queue after an operation either waited there before, or was polled.
In the second case it has gone on as far as it could. -/
theorem Sound.reserving_perform (hb : b.Sound) {op : Op} {r' : Reservation}
    (h : (b.perform op).2.gate = .reserving r') :
    b.gate = .reserving r' ∨ ∃ r, b.start? = some r ∧ b.aheadOf r ≠ [] ∧
      op = .poll r.request.ticket ∧ (b.perform op).2.contents = b.contents ∧
      r' = ⟨r.request, b.aheadOf r, b.heldBy r, b.goneBy r⟩ := by
  cases op with
  | publish ticket event =>
    simp only [Bus.perform] at h
    split at h
    · exact .inl (gate_request_eq_reserving.1 h)
    · exact .inl h
  | poll ticket =>
    by_cases hholder : b.gate.holder? = some ticket
    · simp only [Bus.perform, if_pos hholder] at h ⊢
      rcases hr : b.start? with _ | r
      · rw [drive_of_free (start?_eq_none.1 hr)] at h
        exact .inl h
      · by_cases hw : b.aheadOf r = []
        · obtain ⟨wakes, hd⟩ := hb.drive_deliver hr hw
          rw [hd] at h
          exact absurd h (gate_passGate_ne _ _)
        · have hticket : r.request.ticket = ticket := by
            rw [Gate.holder?_eq_map, publication?_of_start? hr] at hholder
            exact Option.some.inj hholder
          have hcontents := contents_drive_wait hb hr hw
          rw [drive_eq_wait hr (hb.nodup_ahead hr) hw] at h
          exact .inr ⟨r, rfl, hw, by rw [hticket], hcontents, (Gate.reserving.inj h).symm⟩
    · simp only [Bus.perform, if_neg hholder] at h
      exact .inl h
  | cancel ticket => exact .inl (hb.reserving_of_cancel h).1
  | subscribe =>
    simp only [Bus.perform] at h
    split at h
    · rcases hs : b.subscribe? with _ | ⟨id, b'⟩
      · rw [hs] at h
        exact .inl h
      · rw [hs] at h
        obtain ⟨-, rfl⟩ := subscribe?_eq hs
        exact .inl h
    · exact .inl h
  | unsubscribe id =>
    simp only [Bus.perform] at h
    split at h <;> exact .inl h
  | recv id | tryRecv id =>
    simp only [Bus.perform] at h
    split at h
    · rw [take_eq] at h
      exact .inl h
    · exact .inl h
  | stats | close =>
    simp only [Bus.perform] at h
    split at h <;> exact .inl h

/-- Receiving gives up no subscription. -/
theorem isOpenAt_take (b : Bus) (id x : Nat) : (b.take id).2.1.isOpenAt x = b.isOpenAt x := by
  unfold isOpenAt
  rcases queue?_take b id x with h | ⟨q, e, es, hq, -, hq'⟩
  · rw [h]
  · rw [hq, hq']

/-- A subscription that exists goes on existing until it is given up. -/
theorem Sound.isOpenAt_perform (hb : b.Sound) {op : Op} {id : Nat} (hop : op ≠ .unsubscribe id)
    (ho : b.isOpenAt id = true) : (b.perform op).2.isOpenAt id = true := by
  rw [← isSome_contents] at ho ⊢
  cases op with
  | publish ticket event =>
    simp only [Bus.perform]
    split
    · rwa [contents_request]
    · exact ho
  | poll ticket =>
    simp only [Bus.perform]
    split
    · rcases hr : b.start? with _ | r
      · rwa [drive_of_free (start?_eq_none.1 hr)]
      · by_cases hw : b.aheadOf r = []
        · rwa [contents_drive_deliver hb hr hw, Option.isSome_map]
        · rwa [contents_drive_wait hb hr hw]
    · exact ho
  | cancel ticket => exact (contents_cancel hb ticket).symm ▸ ho
  | subscribe =>
    simp only [Bus.perform]
    split
    · rcases hs : b.subscribe? with _ | ⟨id', b'⟩
      · exact ho
      · rw [contents_subscribe hb hs]
        split
        · rfl
        · exact ho
    · exact ho
  | unsubscribe id' =>
    have hne : id ≠ id' := fun h => hop (h ▸ rfl)
    simp only [Bus.perform]
    split
    · rwa [contents_unsubscribe, if_neg hne]
    · exact ho
  | recv id' | tryRecv id' =>
    simp only [Bus.perform]
    split
    · rwa [isSome_contents, isOpenAt_take, ← isSome_contents]
    · exact ho
  | stats | close =>
    simp only [Bus.perform]
    split <;> exact ho

/-! ### From the gate to the delivery -/

/-- A publish waits at a queue only after it was polled. -/
theorem Inside.ne_nil {since : List Op} {p : Publication} (h : b.Inside p since)
    (hg : (b.run since).gate = .reserving r) : since ≠ [] := by
  rintro rfl
  rw [show b.run [] = b from rfl, h.granted] at hg
  simp at hg

/-- A publish that waits after one more operation is still inside. -/
theorem Inside.concat {since : List Op} {p : Publication} {op : Op} (h : b.Inside p since)
    (hfirst : since = [] → op = .poll p.ticket)
    (hg : (b.run (since ++ [op])).gate = .reserving r) (hrequest : r.request = p) :
    b.Inside p (since ++ [op]) where
  granted := h.granted
  first := by
    cases since with
    | nil => simpa using hfirst rfl
    | cons op' since => exact h.first
  waits ops hops hne := by
    rcases List.prefix_concat_iff.1 hops with rfl | hops
    · exact ⟨r, hg, hrequest⟩
    · exact h.waits ops hops hne

theorem run_append (b : Bus) (ops ops' : List Op) : b.run (ops ++ ops') = (b.run ops).run ops' :=
  List.foldl_append

theorem run_concat (b : Bus) (ops : List Op) (op : Op) :
    b.run (ops ++ [op]) = ((b.run ops).perform op).2 := run_append b ops [op]

theorem start?_granted {p : Publication} (h : b.gate = .granted p) :
    b.start? = some ⟨p, b.ids, [], []⟩ := by
  unfold start?
  rw [h]

/-- **Every publish that has the gate got past it at some moment,** or is about to. Its targets
are the queues that were registered then. The induction is on the operations; a poll moves targets
between those that are ahead and those that are behind, and keeps them together. -/
theorem Sound.exists_inside (hb : b.Sound) (hfree : b.gate = .free) (ops : List Op)
    (hr : (b.run ops).start? = some r) : ∃ earlier since, ops = earlier ++ since ∧
      (b.run earlier).Inside r.request since ∧ r.targets.Perm (b.run earlier).ids := by
  induction ops using List.reverseRecOn generalizing r with
  | nil =>
    have hnone := start?_eq_none.2 hfree
    rw [show b.run [] = b from rfl, hnone] at hr
    simp at hr
  | append_singleton ops op ih =>
    rcases hg : (b.run (ops ++ [op])).gate with _ | p | r'
    · rw [start?_eq_none.2 hg] at hr
      simp at hr
    · obtain rfl := Option.some.inj ((start?_granted hg).symm.trans hr)
      refine ⟨ops ++ [op], [], by simp, ⟨hg, by simp, ?_⟩, by simp [Reservation.targets]⟩
      intro l hl hne
      exact absurd (List.prefix_nil.1 hl) hne
    · obtain rfl := Option.some.inj ((start?_reserving hg).symm.trans hr)
      have hgate := hg
      rw [run_concat] at hgate
      rcases (hb.run ops).reserving_perform hgate with hbefore | ⟨r, hstart, -, rfl, -, rfl⟩
      · obtain ⟨earlier, since, rfl, hinside, hperm⟩ := ih (start?_reserving hbefore)
        rw [run_append] at hbefore
        rw [List.append_assoc, run_append] at hg
        have hne := hinside.ne_nil hbefore
        exact ⟨earlier, since ++ [op], by simp,
          hinside.concat (fun h => absurd h hne) hg rfl, hperm⟩
      · obtain ⟨earlier, since, rfl, hinside, hperm⟩ := ih hstart
        rw [List.append_assoc, run_append] at hg
        exact ⟨earlier, since ++ [_], by simp, hinside.concat (fun _ => rfl) hg rfl,
          (targets_perm _ r).trans hperm⟩

/-- **A slot is reserved where a subscription exists.** If it exists no more, it was given up after
its slot was reserved. -/
theorem Sound.dropped_of_slots (hb : b.Sound) (hnone : b.slots = []) (ops : List Op) {id : Nat}
    (hid : id ∈ (b.run ops).slots) (hclosed : (b.run ops).isOpenAt id = false) :
    ∃ before after, ops = before ++ .unsubscribe id :: after ∧ id ∈ (b.run before).slots := by
  induction ops using List.reverseRecOn with
  | nil =>
    rw [show b.run [] = b from rfl, hnone] at hid
    simp at hid
  | append_singleton ops op ih =>
    have hsound := hb.run ops
    -- What was dropped among the earlier operations was dropped among all of them.
    have hearlier : id ∈ (b.run ops).slots → (b.run ops).isOpenAt id = false →
        ∃ before after, ops ++ [op] = before ++ .unsubscribe id :: after ∧
          id ∈ (b.run before).slots := by
      intro hid hclosed
      obtain ⟨before, after, rfl, hslot⟩ := ih hid hclosed
      exact ⟨before, after ++ [op], by simp, hslot⟩
    rw [run_concat] at hid hclosed
    rcases hg : ((b.run ops).perform op).2.gate with _ | p | r'
    · rw [slots_eq_nil (by simp [hg])] at hid
      simp at hid
    · rw [slots_eq_nil (by simp [hg])] at hid
      simp at hid
    · rw [slots_reserving hg] at hid
      rcases hsound.reserving_perform hg with hbefore | ⟨r, hr, hw, -, hcontents, rfl⟩
      · rw [← slots_reserving hbefore] at hid
        rcases ho : (b.run ops).isOpenAt id with _ | _
        · exact hearlier hid ho
        · by_cases hop : op = .unsubscribe id
          · exact ⟨ops, [], by rw [hop], hid⟩
          · rw [hsound.isOpenAt_perform hop ho] at hclosed
            simp at hclosed
      · rw [← isSome_contents, hcontents, isSome_contents] at hclosed
        rcases List.mem_append.1 hid with hheld | hnew
        · exact hearlier (held_eq_slots hr ▸ hheld) hclosed
        · have hbounded : (b.run ops).capacity ≠ none := fun h => hw (aheadOf_of_unbounded h r)
          have htakes := (List.mem_filter.1 hnew).2
          simp [takes, hclosed, hbounded] at htakes

/-! ### The delivery -/

theorem Sound.capacity_run (hb : b.Sound) (ops : List Op) : (b.run ops).capacity = b.capacity := by
  induction ops using List.reverseRecOn with
  | nil => rfl
  | append_singleton ops op ih =>
    rw [run_concat]
    exact (capacity_perform (hb.run ops) op).trans ih

/-- The late queues are those that the publish holds although their subscriptions are gone. -/
theorem late_eq (hr : b.start? = some r) (hbounded : b.capacity.isSome) :
    b.late = (b.heldBy r).filter fun id => !b.isOpenAt id := by
  have hnew : ((r.ahead.takeWhile b.passes).filter b.takes).filter (fun id => !b.isOpenAt id) =
      [] := by
    rw [List.filter_eq_nil_iff]
    intro id hid
    have htakes := (List.mem_filter.1 hid).2
    simpa [takes, Option.isNone_iff_eq_none, Option.isSome_iff_ne_none.1 hbounded] using htakes
  rw [heldBy, List.filter_append, hnew, List.append_nil, Sound.held_eq_slots hr]
  rfl

theorem Sound.late_of_unbounded (hb : b.Sound) (hc : b.capacity = none) : b.late = [] := by
  have hnone : ∀ r, b.gate ≠ .reserving r := by
    intro r hg
    have hbounded := (hb.gate r hg).bounded
    rw [hc] at hbounded
    simp at hbounded
  rw [late, slots_eq_nil hnone]
  rfl

/-- Every target is behind a publish that waits nowhere. -/
theorem targets_perm_of_done (hw : b.aheadOf r = []) :
    (b.heldBy r ++ b.goneBy r).Perm r.targets := by
  have hperm := targets_perm b r
  rwa [hw, List.append_nil] at hperm

theorem Sound.goneBy_closed (hb : b.Sound) (hr : b.start? = some r) {id : Nat}
    (h : id ∈ b.goneBy r) : b.isOpenAt id = false := by
  rcases List.mem_append.1 h with hgone | hnew
  · exact hb.gone_closed hr id hgone
  · have htakes := (List.mem_filter.1 hnew).2
    simp only [takes, Bool.not_or, Bool.and_eq_true, Bool.not_eq_true'] at htakes
    exact htakes.2

/-- What is not counted is removed. -/
theorem length_removed (hw : b.aheadOf r = []) :
    (b.removedBy r).length + ((b.heldBy r).filter b.counts).length = r.targets.length := by
  have hlength := (targets_perm_of_done hw).length_eq
  have hsplit := List.length_eq_length_filter_add (l := b.heldBy r) b.counts
  rw [List.length_append] at hlength
  rw [removedBy, List.length_append]
  omega

section Deliver

variable (hb : b.Sound) (hr : b.start? = some r) (hw : b.aheadOf r = [])
include hb hr hw

/-- **What is counted** are the targets whose subscriptions exist, and the late ones. -/
theorem Sound.length_counted : ((b.heldBy r).filter b.counts).length =
    (r.targets.filter b.isOpenAt).length + b.late.length := by
  have htargets : (r.targets.filter b.isOpenAt).length =
      ((b.heldBy r).filter b.isOpenAt).length := by
    have hgone : (b.goneBy r).filter b.isOpenAt = [] :=
      List.filter_eq_nil_iff.2 fun id hid => by simp [hb.goneBy_closed hr hid]
    rw [← ((targets_perm_of_done hw).filter _).length_eq, List.filter_append, hgone,
      List.append_nil]
  rw [htargets]
  rcases hc : b.capacity with _ | c
  · have hcounts : b.counts = b.isOpenAt := by
      funext id
      simp [counts_eq, hc]
    rw [hcounts, hb.late_of_unbounded hc, List.length_nil, Nat.add_zero]
  · have hcounts : ∀ id ∈ b.heldBy r, b.counts id = true := by simp [counts_eq, hc]
    rw [List.filter_eq_self.2 hcounts, late_eq hr (by simp [hc])]
    exact List.length_eq_length_filter_add _

/-- **What stays registered** of the targets without a subscription are the late ones. -/
theorem Sound.notMem_removed_iff {id : Nat} (hid : id ∈ r.targets)
    (hclosed : b.isOpenAt id = false) : id ∉ b.removedBy r ↔ id ∈ b.late := by
  have hperm := targets_perm_of_done hw
  have hnodup := hperm.nodup_iff.2 (hb.nodup_targets hr)
  have hdisjoint := (List.nodup_append.1 hnodup).2.2
  rcases hc : b.capacity with _ | c
  · have hcounts : b.counts id = false := by simp [counts_eq, hc, hclosed]
    rw [hb.late_of_unbounded hc]
    have hremoved : id ∈ b.removedBy r := by
      rcases List.mem_append.1 (hperm.mem_iff.2 hid) with hheld | hgone
      · exact List.mem_append_right _ (List.mem_filter.2 ⟨hheld, by simp [hcounts]⟩)
      · exact List.mem_append_left _ hgone
    simp [hremoved]
  · have hcounts : (b.heldBy r).filter (fun id => !b.counts id) = [] := by
      simp [counts_eq, hc]
    rw [removedBy, hcounts, List.append_nil, late_eq hr (by simp [hc]), List.mem_filter]
    constructor
    · intro hgone
      have hheld := (List.mem_append.1 (hperm.mem_iff.2 hid)).resolve_right hgone
      exact ⟨hheld, by simp [hclosed]⟩
    · rintro ⟨hheld, -⟩ hgone
      exact hdisjoint id hheld id hgone rfl

end Deliver

theorem ids_deliver (b : Bus) (r : Reservation) :
    (b.deliver r).ids = b.ids.filter fun id => !(b.removedBy r).contains id := by
  unfold ids deliver
  rw [List.map_map, List.filter_map]
  rfl

theorem mem_ids_deliver {id : Nat} :
    id ∈ (b.deliver r).ids ↔ id ∈ b.ids ∧ id ∉ b.removedBy r := by
  simp [ids_deliver]

/-- A poll that completes a publish is a delivery. -/
theorem Sound.completed (hb : b.Sound) {ticket count : Nat} {entered : Bool}
    (h : (b.perform (.poll ticket)).1 = .polled entered (some count)) :
    ∃ r, b.start? = some r ∧ b.aheadOf r = [] ∧ r.request.ticket = ticket ∧
      count = ((b.heldBy r).filter b.counts).length ∧
      (b.perform (.poll ticket)).2 = (b.deliver r).passGate.1 ∧
      ∀ id, (b.perform (.poll ticket)).2.contents id =
        (b.contents id).map fun es => if id ∈ r.targets then es ++ [r.request.event] else es := by
  by_cases hholder : b.gate.holder? = some ticket
  · simp only [Bus.perform, if_pos hholder, Reply.polled.injEq] at h ⊢
    rcases hr : b.start? with _ | r
    · rw [drive_of_free (start?_eq_none.1 hr)] at h
      simp at h
    · have hticket : r.request.ticket = ticket := by
        rw [Gate.holder?_eq_map, publication?_of_start? hr] at hholder
        exact Option.some.inj hholder
      by_cases hw : b.aheadOf r = []
      · have hcontents := contents_drive_deliver hb hr hw
        obtain ⟨wakes, hd⟩ := hb.drive_deliver hr hw
        rw [hd] at h
        refine ⟨r, rfl, hw, hticket, (Option.some.inj h.2).symm, by rw [hd], hcontents⟩
      · rw [drive_eq_wait hr (hb.nodup_ahead hr) hw] at h
        simp at h
  · simp [Bus.perform, hholder] at h

/-- **What a publish counts.** For any capacity and any operations: let a publish be completed at
this moment, and let its snapshot be the queues that were registered when it got past the gate.

* It counts the subscriptions of the snapshot that still exist, and the late queues; the bus adds
  that number to its deliveries.
* Each of these subscriptions goes on, with the event at the end of its queue.
* Of the other queues of the snapshot all but the late ones are removed. What is not counted is
  removed, and adds to the number of queues pruned.
* A queue is late only if its subscription was given up while the publish was waiting, after its
  slot was reserved. On a bus without a capacity there is none. -/
theorem publish_counts (capacity : Option Nat) (ops : List Op) {ticket count : Nat}
    {entered : Bool}
    (h : (((Bus.new capacity).run ops).perform (.poll ticket)).1 = .polled entered (some count)) :
    ∃ earlier since p, ops = earlier ++ since ∧ p.ticket = ticket ∧
      ((Bus.new capacity).run earlier).Inside p since ∧
      let snapshot := ((Bus.new capacity).run earlier).ids
      let b := (Bus.new capacity).run ops
      let b' := (b.perform (.poll ticket)).2
      (count = (snapshot.filter b.isOpenAt).length + b.late.length ∧
        b'.stats.published = b.stats.published + 1 ∧
        b'.stats.deliveries = b.stats.deliveries + count) ∧
      (∀ id ∈ snapshot, b.isOpenAt id = true →
        b'.isOpenAt id = true ∧ b'.itemsAt id = b.itemsAt id ++ [p.event]) ∧
      ((∀ id ∈ snapshot, b.isOpenAt id = false → (id ∈ b'.ids ↔ id ∈ b.late)) ∧
        b'.stats.pruned + count = b.stats.pruned + snapshot.length) ∧
      (∀ id ∈ b.late, id ∈ snapshot ∧ ∃ before after, since = before ++ .unsubscribe id :: after ∧
        id ∈ (((Bus.new capacity).run earlier).run before).slots) ∧
      (capacity = none → b.late = []) := by
  have hnew := Sound.new capacity
  have hb := hnew.run ops
  obtain ⟨r, hr, hw, rfl, rfl, hafter, hcontents⟩ := hb.completed h
  obtain ⟨earlier, since, rfl, hinside, hperm⟩ := hnew.exists_inside rfl ops hr
  refine ⟨earlier, since, r.request, rfl, rfl, hinside, ?_⟩
  intro snapshot b b'
  have hb' : b' = (b.deliver r).passGate.1 := hafter
  have hstats : b'.stats = (b.deliver r).stats := by
    rw [hb', passGate_eq]
  have hids : b'.ids = (b.deliver r).ids := by
    rw [hb', passGate_eq]
    rfl
  have hmem : ∀ id ∈ snapshot, id ∈ r.targets := fun id => hperm.mem_iff.2
  refine ⟨⟨?_, ?_, ?_⟩, fun id hid ho => ?_, ⟨fun id hid hclosed => ?_, ?_⟩, fun id hid => ?_, ?_⟩
  · rw [hb.length_counted hr hw, (hperm.filter _).length_eq]
  · rw [hstats]
    rfl
  · rw [hstats]
    rfl
  · obtain ⟨es, hes⟩ := Option.isSome_iff_exists.1 ((isSome_contents b id).trans ho)
    have hes' : b'.contents id = some (es ++ [r.request.event]) := by
      rw [hcontents id, hes, Option.map_some, if_pos (hmem id hid)]
    rw [← isSome_contents, hes', itemsAt_of_contents hes, itemsAt_of_contents hes']
    exact ⟨rfl, rfl⟩
  · have hregistered := hb.targets_registered hr id (hmem id hid)
    rw [hids, mem_ids_deliver, hb.notMem_removed_iff hr hw (hmem id hid) hclosed]
    exact and_iff_right hregistered
  · rw [hstats, ← hperm.length_eq, ← length_removed hw]
    exact Nat.add_assoc ..
  · obtain ⟨hslot, hclosed⟩ := List.mem_filter.1 hid
    rw [Bool.not_eq_true'] at hclosed
    have htarget : id ∈ r.targets :=
      List.mem_append_left _ (List.mem_append_left _ (Sound.held_eq_slots hr ▸ hslot))
    have hgranted : ((Bus.new capacity).run earlier).slots = [] :=
      slots_eq_nil (by simp [hinside.granted])
    refine ⟨hperm.mem_iff.1 htarget, ?_⟩
    have hrun : b = ((Bus.new capacity).run earlier).run since := run_append _ _ _
    rw [hrun] at hslot hclosed
    exact (hnew.run earlier).dropped_of_slots hgranted since hslot hclosed
  · rintro rfl
    exact hb.late_of_unbounded (hnew.capacity_run _)

/-- A publish waits at the first queue while the second subscription is given up. It counts one
delivery, and removes the second queue. -/
theorem publish_counts_of_waiting :
    let event := fun id : String => (⟨id, "a", "", "", default⟩ : Event)
    let ops : List Op := [.subscribe, .subscribe, .publish 0 (event "1"), .poll 0, .recv 1,
      .publish 1 (event "2"), .poll 1, .unsubscribe 1, .recv 0]
    let b := (Bus.new (some 1)).run ops
    let b' := (b.perform (.poll 1)).2
    (b.perform (.poll 1)).1 = .polled false (some 1) ∧ b.late = [] ∧
      (b'.ids, b'.stats.deliveries, b'.stats.pruned) = ([0], 3, 1) ∧
      ∃ snapshot : List Nat, 1 = (snapshot.filter b.isOpenAt).length + b.late.length := by
  intro event ops b b'
  have h : (b.perform (.poll 1)).1 = .polled false (some 1) := by decide
  obtain ⟨earlier, -, -, -, -, -, ⟨hcount, -⟩, -⟩ := publish_counts (some 1) ops h
  exact ⟨h, by decide, by decide, _, hcount⟩

/-- **An event can be counted that nobody gets.** The publish has a slot in the first queue and
waits at the second, when the first subscription is given up. It counts two deliveries although one
subscription is left, and leaves the first queue registered. -/
theorem late_counted :
    let event := fun id : String => (⟨id, "a", "", "", default⟩ : Event)
    let earlier : List Op := [.subscribe, .subscribe, .publish 0 (event "1"), .poll 0, .recv 0,
      .publish 1 (event "2")]
    let since : List Op := [.poll 1, .unsubscribe 0, .recv 1]
    let b₀ := (Bus.new (some 1)).run earlier
    let b := (Bus.new (some 1)).run (earlier ++ since)
    b₀.Inside ⟨1, event "2"⟩ since ∧ b₀.ids = [0, 1] ∧
      (b.perform (.poll 1)).1 = .polled false (some 2) ∧
      (b₀.ids.filter b.isOpenAt).length = 1 ∧ b.isOpenAt 0 = false ∧
      0 ∈ (b.perform (.poll 1)).2.ids := by
  intro event earlier since b₀ b
  refine ⟨⟨by decide, by decide, fun ops hops hne => ?_⟩, by decide, by decide, by decide, by decide,
    by decide⟩
  have hinits : ops ∈ since.inits := (List.mem_inits ops since).2 hops
  simp only [since, List.inits, List.map_cons, List.map_nil, List.mem_cons, List.not_mem_nil,
    or_false] at hinits
  rcases hinits with rfl | rfl | rfl | rfl
  · exact absurd rfl hne
  all_goals exact ⟨⟨⟨1, event "2"⟩, [1], [0], []⟩, by decide, rfl⟩

end Bus
end StatusRelay
