/-
# The register of a bus, and what it counts

A queue stands in the register from the moment at which its subscription is made. Giving the
subscription up closes it, and a later publish removes it; the bus counts the removals. What is
registered and counted is compared here with what happened, which is read off the replies alone:

| of the bus | of the past |
| --- | --- |
| queues registered, and queues pruned | subscriptions made |
| open queues | subscriptions made and not dropped |
| publishes counted | publishes completed |
| deliveries counted | what these publishes returned |

All of it rests on one invariant, `Booked`. It speaks of every moment of a publish: the numbers of
the queues that a publish is about to remove are known to nobody else, and are forgotten with it
when it is given up.
-/

import Mathlib.Algebra.GroupWithZero.Nat
import StatusRelay.Proofs.Bus.Counting
import StatusRelay.Proofs.Bus.Delivery

namespace StatusRelay

namespace Happening

/-- The subscriptions made, by their numbers. -/
def subscriptions (past : List Happening) : List Nat :=
  past.filterMap fun
    | subscribed id => some id
    | _ => none

/-- What the completed publishes returned. -/
def counts (past : List Happening) : List Nat :=
  past.filterMap fun
    | completed _ count => some count
    | _ => none

theorem subscriptions_append (past more : List Happening) :
    subscriptions (past ++ more) = subscriptions past ++ subscriptions more :=
  List.filterMap_append

theorem counts_append (past more : List Happening) :
    counts (past ++ more) = counts past ++ counts more := List.filterMap_append

end Happening

namespace Bus

variable {b : Bus} {r : Reservation}

/-! ### What a publish removes -/

/-- A list without repetitions is longer than its part by what is outside that. -/
theorem length_outside {l part : List Nat} (hl : l.Nodup) (hpart : part.Nodup) (h : part ⊆ l) :
    (l.filter fun x => !part.contains x).length + part.length = l.length := by
  have hinside : (l.filter part.contains).Perm part := by
    refine (List.perm_ext_iff_of_nodup (hl.filter _) hpart).2 fun x => ?_
    rw [List.mem_filter, List.contains_iff_mem]
    exact ⟨fun hx => hx.2, fun hx => ⟨h hx, hx⟩⟩
  rw [List.length_eq_length_filter_add (l := l) part.contains, hinside.length_eq, Nat.add_comm]

/-- **Every queue that is removed was registered,** and it is removed once. -/
theorem Sound.length_ids_deliver (hb : b.Sound) (hr : b.start? = some r)
    (hw : b.aheadOf r = []) :
    (b.deliver r).ids.length + (b.removedBy r).length = b.ids.length := by
  have hperm := targets_perm_of_done hw
  have hnodup : (b.removedBy r).Nodup := by
    have hsub : (b.removedBy r).Sublist (b.goneBy r ++ b.heldBy r) :=
      (List.Sublist.refl _).append List.filter_sublist
    refine List.Nodup.sublist hsub (List.nodup_append_comm.1 ?_)
    exact hperm.nodup_iff.2 (hb.nodup_targets hr)
  have hregistered : ∀ id ∈ b.removedBy r, id ∈ b.ids := by
    intro id hid
    refine hb.targets_registered hr id (hperm.mem_iff.1 ?_)
    rcases List.mem_append.1 hid with hgone | hheld
    · exact List.mem_append_right _ hgone
    · exact List.mem_append_left _ (List.mem_of_mem_filter hheld)
  rw [ids_deliver]
  exact length_outside hb.nodup hnodup hregistered

theorem Sound.ids_cancel (hb : b.Sound) (ticket : Nat) :
    (b.cancel ticket).2.1.ids = b.ids := by
  rcases hb.cancel_cases ticket with ⟨-, hc⟩ | ⟨wakes, -, hc⟩ | ⟨wakes, -, -, hc⟩
  · rw [hc]
  · rw [hc, passGate_eq]
    simp [ids, release]
  · rw [hc]
    rfl

/-- **The open queues** are those of the subscriptions that exist. -/
theorem Sound.subscriberCount_eq (hb : b.Sound) :
    b.subscriberCount = ((List.range b.nextId).filter b.isOpenAt).length := by
  have hopen : (b.queues.filter (·.isOpen)).map (·.id) = b.ids.filter b.isOpenAt := by
    unfold ids
    rw [List.filter_map]
    exact congrArg _ (List.filter_congr fun q hq => (isOpenAt_eq hb.nodup hq).symm)
  have hperm : (b.ids.filter b.isOpenAt).Perm ((List.range b.nextId).filter b.isOpenAt) := by
    refine (List.perm_ext_iff_of_nodup (hb.nodup.filter _) (List.nodup_range.filter _)).2
      fun id => ?_
    rw [List.mem_filter, List.mem_filter, List.mem_range]
    refine and_congr_left fun ho => ⟨hb.bound id, fun _ => ?_⟩
    obtain ⟨q, hq, rfl, -⟩ := (isOpenAt_iff hb.nodup).1 ho
    exact List.mem_map_of_mem hq
  unfold subscriberCount
  rw [← hperm.length_eq, ← hopen, List.length_map]

end Bus

namespace Session

open Happening

/-- **The books of a bus are right:** its numbers and counts are those of the past. -/
structure Booked (past : List Happening) (b : Bus) : Prop where
  numbers : subscriptions past = List.range b.nextId
  register : b.nextId = b.ids.length + b.stats.pruned
  published : b.stats.published = (counts past).length
  deliveries : b.stats.deliveries = (counts past).sum

variable {s : Session}

namespace Booked

variable {past : List Happening} {b b' : Bus}

/-- Nothing is made or completed. -/
theorem aside (h : Booked past b) (more : List Happening)
    (hsubscriptions : subscriptions more = []) (hcounts : counts more = [])
    (hnext : b'.nextId = b.nextId) (hids : b'.ids.length = b.ids.length)
    (hstats : b'.stats = b.stats) :
    Booked (past ++ more) b' where
  numbers := by rw [subscriptions_append, hsubscriptions, List.append_nil, hnext, h.numbers]
  register := by rw [hnext, hids, hstats, h.register]
  published := by rw [counts_append, hcounts, List.append_nil, hstats, h.published]
  deliveries := by rw [counts_append, hcounts, List.append_nil, hstats, h.deliveries]

/-- An operation that is not recorded. -/
theorem same (h : Booked past b) (hnext : b'.nextId = b.nextId)
    (hids : b'.ids.length = b.ids.length) (hstats : b'.stats = b.stats) : Booked past b' := by
  have := h.aside [] rfl rfl hnext hids hstats
  rwa [List.append_nil] at this

theorem subscribe (h : Booked past b) {id : Nat} (hsub : b.subscribe? = some (id, b')) :
    Booked (past ++ [.subscribed id]) b' := by
  obtain ⟨rfl, rfl⟩ := Bus.subscribe?_eq hsub
  have hcounts : counts [Happening.subscribed b.nextId] = [] := rfl
  have hregister := h.register
  refine ⟨?_, ?_, ?_, ?_⟩
  · rw [subscriptions_append, h.numbers]
    exact List.range_succ.symm
  · simp only [Bus.ids, List.map_append, List.length_append, List.map_cons, List.map_nil,
      List.length_singleton] at hregister ⊢
    omega
  · rw [counts_append, hcounts, List.append_nil]
    exact h.published
  · rw [counts_append, hcounts, List.append_nil]
    exact h.deliveries

/-- **A publish that is completed** books its removals and its deliveries. -/
theorem deliver (h : Booked past b) (hb : b.Sound) {r : Reservation} (hr : b.start? = some r)
    (hw : b.aheadOf r = []) (call : Nat) :
    Booked (past ++ [.completed call ((b.heldBy r).filter b.counts).length])
      (b.deliver r).passGate.1 := by
  have hlength := hb.length_ids_deliver hr hw
  have hregister := h.register
  have hids : (b.deliver r).passGate.1.ids = (b.deliver r).ids := by
    rw [Bus.passGate_eq]
    rfl
  have hone : counts [Happening.completed call ((b.heldBy r).filter b.counts).length] =
    [((b.heldBy r).filter b.counts).length] := rfl
  refine ⟨?_, ?_, ?_, ?_⟩
  · rw [subscriptions_append, h.numbers, Bus.passGate_eq]
    exact List.append_nil _
  · rw [hids, Bus.passGate_eq]
    show b.nextId = (b.deliver r).ids.length + (b.stats.pruned + (b.removedBy r).length)
    omega
  · rw [counts_append, hone, Bus.passGate_eq, List.length_append, ← h.published]
    rfl
  · rw [counts_append, hone, Bus.passGate_eq, List.sum_append, ← h.deliveries]
    rfl

end Booked

/-- A poll of the publish at the gate. -/
theorem Booked.drive (h : Booked s.past s.bus) (hs : Faithful s) {r : Reservation}
    (hr : s.bus.start? = some r) :
    Booked (s.noteMove s.bus.gate.isGranted (s.bus.drive.2.1.map (·.2))).past s.bus.drive.1 := by
  obtain ⟨call, rest, hp, -⟩ := hs.line.head (Bus.pending_of_start? hr)
  -- The entry, if it is recorded, is about no subscription and no end.
  have henter : Booked (if s.bus.gate.isGranted then s.note (.entered call) else s).past s.bus := by
    split
    · exact h.aside [.entered call] rfl rfl rfl rfl rfl
    · exact h
  unfold noteMove
  simp only [hp]
  by_cases hw : s.bus.aheadOf r = []
  · obtain ⟨wakes, hd⟩ := hs.sound.drive_deliver hr hw
    rw [hd]
    exact henter.deliver hs.sound hr hw call
  · rw [Bus.drive_eq_wait hr (hs.sound.nodup_ahead hr) hw]
    refine henter.same ?_ (congrArg List.length (Bus.ids_hold s.bus _)) ?_
    · rw [Bus.hold_eq]
    · rw [Bus.hold_eq]

/-- **Every operation keeps the books right.** -/
theorem Booked.step (h : Booked s.past s.bus) (hs : Faithful s) (op : Bus.Op) :
    Booked (s.step op).past (s.step op).bus := by
  unfold Session.step
  cases op with
  | publish ticket event =>
    simp only [Bus.perform]
    split
    · refine h.aside [.called s.calls event] rfl rfl ?_ ?_ ?_ <;>
        unfold Bus.request <;> split <;> rfl
    · exact h
  | poll ticket =>
    simp only [Bus.perform]
    split
    · rename_i hholder
      rcases hr : s.bus.start? with _ | r
      · rw [Bus.start?_eq_none.1 hr] at hholder
        simp [Gate.holder?] at hholder
      · exact h.drive hs hr
    · simp only [record, noteMove]
      split <;> exact h
  | cancel ticket =>
    have hids := congrArg List.length (hs.sound.ids_cancel ticket)
    have hbus := hs.sound.cancel_eq ticket
    have hnext := congrArg Bus.nextId hbus
    have hstats := congrArg Bus.stats hbus
    simp only [Bus.perform]
    rcases (s.bus.cancel ticket).1 with _ | _
    · exact h.same hnext hids hstats
    · refine h.aside _ ?_ ?_ hnext hids hstats <;>
        exact List.filterMap_eq_nil_iff.2 fun x hx => by
          obtain ⟨c, -, rfl⟩ := List.mem_map.1 hx
          rfl
  | subscribe =>
    simp only [Bus.perform]
    split
    · rcases hsub : s.bus.subscribe? with _ | ⟨id, b⟩
      · exact h
      · exact h.subscribe hsub
    · exact h
  | unsubscribe id =>
    simp only [Bus.perform]
    split
    · exact h.aside [.dropped id] rfl rfl rfl (by simp [Bus.unsubscribe, Bus.modify,
        Bus.ids]) rfl
    · exact h
  | recv id | tryRecv id =>
    have hids := congrArg List.length (Bus.ids_take s.bus id)
    have hbus := Bus.take_eq s.bus id
    have hnext := congrArg Bus.nextId hbus
    have hstats := congrArg Bus.stats hbus
    simp only [Bus.perform]
    split
    · rcases (s.bus.take id).1 with e | _ | _
      · exact h.aside [.received id e] rfl rfl hnext hids hstats
      · exact h.same hnext hids hstats
      · exact h.same hnext hids hstats
    · exact h
  | stats =>
    simp only [Bus.perform]
    split <;> exact h
  | close =>
    simp only [Bus.perform]
    split
    · exact h.aside [.closed] rfl rfl rfl rfl rfl
    · exact h

/-- **The books are right at every moment.** -/
theorem Booked.run (capacity : Option Nat) (ops : List Bus.Op) :
    Booked (Session.run capacity ops).past (Session.run capacity ops).bus := by
  have hrun : ∀ (ops : List Bus.Op) (s : Session), Faithful s → Booked s.past s.bus →
      Booked (ops.foldl Session.step s).past (ops.foldl Session.step s).bus := by
    intro ops
    induction ops with
    | nil => exact fun _ _ h => h
    | cons op ops ih => exact fun s hs h => ih _ (hs.step op) (h.step hs op)
  exact hrun ops _ (Faithful.new capacity) ⟨rfl, rfl, rfl, rfl⟩

/-- **What is registered, and what is counted.** For any capacity and any operations, at any moment:
let `made` be the numbers that calls of `subscribe` have returned so far.

* No two of them are the same. A subscription that was not dropped is registered exactly once, and
  the bus counts these and no others as its subscribers.
* Who was made is registered or was pruned. Nobody is pruned who was not dropped, nobody is pruned
  twice, and nobody is registered who was not made.
* The statistics tell how many publishes were completed, the sum of what these returned, and how
  many subscriptions were pruned; a call of `stats` that is answered is answered with them.
* While the bus is there a call of `subscribe` returns, with a new number, unless the bus was made
  for more events than a queue can hold. -/
theorem subscriptions_accounted (capacity : Option Nat) (ops : List Bus.Op) :
    let s := Session.run capacity ops
    let made := subscriptions s.past
    (made.Nodup ∧ (∀ id ∈ made, .dropped id ∉ s.past → s.bus.ids.count id = 1) ∧
      s.bus.subscriberCount = (made.filter fun id => !s.past.contains (.dropped id)).length) ∧
    (made.length = s.bus.ids.length + s.bus.stats.pruned ∧ s.bus.ids ⊆ made ∧
      ∀ id ∈ made, id ∉ s.bus.ids → .dropped id ∈ s.past) ∧
    (s.bus.stats = ⟨(counts s.past).length, (counts s.past).sum,
        (made.filter fun id => !s.bus.ids.contains id).length⟩ ∧
      ∀ stats, (s.bus.perform .stats).1 = .counted (some stats) → stats = s.bus.stats) ∧
    (s.bus.isOpen = true → capacity.getD 0 ≤ Bus.maxCapacity →
      (s.bus.perform .subscribe).1 = .subscribed made.length) := by
  intro s made
  have hs : Faithful s := Faithful.run capacity ops
  have hbooked : Booked s.past s.bus := Booked.run capacity ops
  have hmade : made = List.range s.bus.nextId := hbooked.numbers
  have hlength : made.length = s.bus.nextId := by rw [hmade, List.length_range]
  have hregister := hbooked.register
  have hopen : ∀ id ∈ made, s.bus.isOpenAt id = !s.past.contains (.dropped id) := by
    intro id hid
    have hmem : .subscribed id ∈ s.past := by
      obtain ⟨h, hmem, heq⟩ := List.mem_filterMap.1 hid
      cases h with
      | subscribed id' => exact Option.some.inj heq ▸ hmem
      | _ => simp at heq
    rw [← Bus.isSome_contents, ← hs.views.existing id, isSubscribed]
    simp [hmem]
  have hregistered : ∀ id, s.bus.isOpenAt id = true → id ∈ s.bus.ids := by
    intro id ho
    obtain ⟨q, hq, rfl, -⟩ := (Bus.isOpenAt_iff hs.sound.nodup).1 ho
    exact List.mem_map_of_mem hq
  have hknown : s.bus.ids ⊆ made := fun id hid => by
    rw [hmade]
    exact List.mem_range.2 (hs.sound.bound id hid)
  have houtside := Bus.length_outside (hmade ▸ List.nodup_range) hs.sound.nodup hknown
  refine ⟨⟨hmade ▸ List.nodup_range, fun id hid hkept => ?_, ?_⟩,
    ⟨by omega, hknown, fun id hid hout => ?_⟩, ⟨?_, fun stats hreply => ?_⟩, fun ho hfits => ?_⟩
  · have ho : s.bus.isOpenAt id = true := by
      rw [hopen id hid]
      simp [hkept]
    exact List.count_eq_one_of_mem hs.sound.nodup (hregistered id ho)
  · rw [hs.sound.subscriberCount_eq, ← hmade]
    exact congrArg List.length (List.filter_congr hopen)
  · by_contra hkept
    refine hout (hregistered id ?_)
    rw [hopen id hid]
    simp [hkept]
  · have hpruned : s.bus.stats.pruned = (made.filter fun id => !s.bus.ids.contains id).length := by
      omega
    rw [← hpruned, ← hbooked.published, ← hbooked.deliveries]
  · simp only [Bus.perform] at hreply
    split at hreply
    · split at hreply
      · simp at hreply
      · simpa [eq_comm] using hreply
    · simp at hreply
  · have hcapacity : s.bus.capacity.getD 0 ≤ Bus.maxCapacity := by
      rw [Session.capacity_run]
      cases capacity with
      | none => exact Nat.zero_le _
      | some c => exact Nat.max_le.2 ⟨by decide, hfits⟩
    simp only [Bus.perform, ho, if_true, Bus.subscribe?, if_pos hcapacity, hlength]

/-- A publish finds the first subscription gone and is given up; the next one removes its queue. -/
example :
    let event := fun id : String => (⟨id, "a", "", "", default⟩ : Event)
    let s := Session.run (some 1) [.subscribe, .subscribe, .publish 0 (event "1"), .poll 0,
      .unsubscribe 0, .publish 1 (event "2"), .poll 1, .cancel 1, .publish 2 (event "3"), .recv 1,
      .poll 2]
    (subscriptions s.past, counts s.past, s.bus.ids, s.bus.stats) =
      ([0, 1], [2, 1], [1], ⟨2, 3, 1⟩) := by decide

end Session
end StatusRelay
