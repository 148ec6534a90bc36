/-
# Subscribers who miss nothing

Let all subscriptions be made before the first publish, and let nobody give one up. Then every
publish goes to all of them, and each has received, or can still receive, all that was published.

| operation | published | received |
| --- | --- | --- |
| `request`, a `drive` that waits | as before | as before |
| a `drive` that delivers | one event more | as before |
| `take id` | as before | one event more for `id` |

Which event a drive delivers is known from who asked for what: `Poses b i (some e)` says that a
publish under the ticket `i`, if there is one under way, is one of `e`.
-/

import StatusRelay.Proofs.Bus.Contents
import Mathlib.Data.List.Nodup
import Mathlib.Logic.Function.Basic

namespace StatusRelay
namespace Bus

variable {b : Bus} {i : Nat} {e : Event} {n : Nat} {published : List Event}
  {received : Nat → List Event}

/-! ### Who asked for what -/

/-- A publish that is under way under a ticket is one of this event; there is none if no event is
given. -/
def Poses (b : Bus) (i : Nat) (asked : Option Event) : Prop :=
  ∀ p ∈ b.pending, p.ticket = i → asked = some p.event

theorem Poses.notMem_waiting (h : b.Poses i none) : i ∉ b.waiting := by
  rw [waiting_eq]
  intro hmem
  obtain ⟨p, hp, hpi⟩ := List.mem_map.1 hmem
  simpa using h p hp hpi

theorem Poses.request (h : b.Poses i none) (hb : b.Sound) (e : Event) :
    (b.request i e).Poses i (some e) := by
  intro p hp hpi
  rw [hb.pending_request, List.mem_append, List.mem_singleton] at hp
  rcases hp with hp | rfl
  · simpa using h p hp hpi
  · rfl

/-- **A publish that is completed** was one of the event that was asked for, and nothing is asked
for after it. -/
theorem Poses.drive (h : b.Poses i (some e)) (hb : b.Sound) (hholder : b.gate.holder? = some i)
    {done : Nat × Nat} (hd : b.drive.2.1 = some done) :
    b.pending = ⟨i, e⟩ :: b.drive.1.pending ∧ b.drive.1.Poses i none := by
  obtain ⟨p, hp, hpending⟩ := pending_of_holder? hholder
  obtain ⟨p', -, hrest⟩ := hb.pending_drive_of_some hd
  obtain ⟨rfl, -⟩ := List.cons.inj (hrest.symm.trans hpending)
  have hevent := Option.some.inj (h p' (hrest ▸ List.mem_cons_self) hp)
  have hnodup := hb.tickets
  rw [hrest, List.map_cons, List.nodup_cons] at hnodup
  refine ⟨?_, fun q hq hqi => ?_⟩
  · rw [hevent, ← hp]
    exact hrest
  · rw [hp, ← hqi] at hnodup
    exact absurd (List.mem_map_of_mem hq) hnodup.1

/-! ### Everything to everybody -/

/-- **Each of `n` subscriptions gets all that is published:** it has received a part, and the rest
is in its queue. -/
structure Wide (n : Nat) (published : List Event) (received : Nat → List Event) (b : Bus) :
    Prop where
  sound : b.Sound
  isOpen : b.isOpen = true
  ids : b.ids = List.range n
  aimed : ∀ r, b.gate = .reserving r → ∀ id < n, id ∈ r.targets
  deliveries : b.stats.deliveries = published.length * n
  fed : ∀ id < n, ∃ es, b.contents id = some es ∧ received id ++ es = published

namespace Wide

theorem new (capacity : Option Nat) (received : Nat → List Event) :
    Wide 0 [] received (Bus.new capacity) where
  sound := Sound.new capacity
  isOpen := rfl
  ids := rfl
  aimed := fun _ _ id hid => absurd hid (Nat.not_lt_zero id)
  deliveries := rfl
  fed := fun id hid => absurd hid (Nat.not_lt_zero id)

/-- Who subscribes before the first publish misses nothing. -/
theorem subscribe (h : Wide n [] received b) (hfree : b.gate = .free) (hnext : b.nextId = n)
    (hreceived : received n = []) {id : Nat} {b' : Bus} (hs : b.subscribe? = some (id, b')) :
    Wide (n + 1) [] received b' := by
  have hcontents := contents_subscribe h.sound hs
  have hsound := h.sound.subscribe hs
  have hids := ids_subscribe hs
  obtain ⟨rfl, rfl⟩ := subscribe?_eq hs
  subst hnext
  refine ⟨hsound, h.isOpen, ?_, fun r hr => ?_, ?_, fun x hx => ?_⟩
  · rw [hids, h.ids, List.range_succ]
  · have hgate : b.gate = .reserving r := hr
    simp [hfree] at hgate
  · have := h.deliveries
    simpa using this
  · rw [hcontents]
    by_cases hxn : x = b.nextId
    · subst hxn
      exact ⟨[], if_pos rfl, by rw [hreceived, List.nil_append]⟩
    · rw [if_neg hxn]
      exact h.fed x (by omega)

theorem isOpenAt (h : Wide n published received b) {id : Nat} (hid : id < n) :
    b.isOpenAt id = true := by
  obtain ⟨es, hes, -⟩ := h.fed id hid
  rw [← isSome_contents, hes]
  rfl

/-- The publish at the gate goes to all. -/
theorem mem_targets (h : Wide n published received b) {r : Reservation} (hr : b.start? = some r)
    {id : Nat} : id ∈ r.targets ↔ id < n := by
  constructor
  · intro hid
    have hmem := h.sound.targets_registered hr id hid
    rw [h.ids] at hmem
    exact List.mem_range.1 hmem
  · intro hid
    unfold start? at hr
    split at hr
    · simp at hr
    · obtain rfl := Option.some.inj hr
      change id ∈ [] ++ [] ++ b.ids
      rw [h.ids]
      exact List.mem_range.2 hid
    · rename_i r' hg
      obtain rfl := Option.some.inj hr
      exact h.aimed r' hg id hid

/-- A publish that waits nowhere holds all queues. -/
theorem heldBy_perm (h : Wide n published received b) {r : Reservation} (hr : b.start? = some r)
    (hw : b.aheadOf r = []) : (b.heldBy r).Perm (List.range n) := by
  refine (List.perm_ext_iff_of_nodup (h.sound.nodup_heldBy hr) List.nodup_range).2 fun id => ?_
  rw [List.mem_range, ← h.mem_targets hr]
  constructor
  · intro hid
    exact (targets_perm b r).mem_iff.1
      (List.mem_append_left _ (List.mem_append_left _ hid))
  · intro hid
    exact (h.sound.mem_heldBy_iff hr hw (h.isOpenAt ((h.mem_targets hr).1 hid))).2 hid

theorem request (h : Wide n published received b) (e : Event) (hi : b.Poses i none) :
    Wide n published received (b.request i e) := by
  have hqueues : (b.request i e).queues = b.queues := by
    unfold Bus.request
    split <;> rfl
  have hstats : (b.request i e).stats = b.stats := by
    unfold Bus.request
    split <;> rfl
  refine ⟨h.sound.request e hi.notMem_waiting, (isOpen_request b i e).trans h.isOpen, ?_,
    fun r hr => h.aimed r (gate_request_eq_reserving.1 hr), ?_, ?_⟩
  · unfold Bus.ids
    rw [hqueues]
    exact h.ids
  · rw [hstats]
    exact h.deliveries
  · rw [contents_request]
    exact h.fed

/-- A publish that waits delivers nothing. -/
theorem drive_wait (h : Wide n published received b) (hd : b.drive.2.1 = none) :
    Wide n published received b.drive.1 := by
  rcases hr : b.start? with _ | r
  · rw [drive_of_free (start?_eq_none.1 hr)]
    exact h
  · by_cases hw : b.aheadOf r = []
    · obtain ⟨wakes, hdone⟩ := h.sound.drive_deliver hr hw
      rw [hdone] at hd
      simp at hd
    · have heq := drive_eq_wait hr (h.sound.nodup_ahead hr) hw
      have hcontents := contents_drive_wait h.sound hr hw
      refine ⟨h.sound.drive, ?_, ?_, fun r' hr' id hid => ?_, ?_, hcontents ▸ h.fed⟩
      · rw [heq, hold_eq]
        exact h.isOpen
      · rw [heq]
        exact (ids_hold b _).trans h.ids
      · rw [heq] at hr'
        obtain rfl := Gate.reserving.inj hr'
        exact (targets_perm b r).mem_iff.2 ((h.mem_targets hr).2 hid)
      · rw [h.sound.stats_drive_of_none hd]
        exact h.deliveries

/-- **What is published goes to all.** -/
theorem drive_done (h : Wide n published received b) (hasked : b.Poses i (some e))
    (hholder : b.gate.holder? = some i) {done : Nat × Nat} (hd : b.drive.2.1 = some done) :
    Wide n (published ++ [e]) received b.drive.1 := by
  obtain ⟨hpending, -⟩ := hasked.drive h.sound hholder hd
  rcases hr : b.start? with _ | r
  · rw [drive_of_free (start?_eq_none.1 hr)] at hd
    simp at hd
  · by_cases hw : b.aheadOf r = []
    · have hrequest : r.request = ⟨i, e⟩ := by
        rw [pending_of_start? hr] at hpending
        exact (List.cons.inj hpending).1
      have hopen : ∀ id ∈ b.ids, b.isOpenAt id = true := fun id hid => by
        rw [h.ids, List.mem_range] at hid
        exact h.isOpenAt hid
      have hheld := h.heldBy_perm hr hw
      have hcounts : (b.heldBy r).filter b.counts = b.heldBy r := by
        refine List.filter_eq_self.2 fun id hid => ?_
        rw [counts_eq, h.isOpenAt (List.mem_range.1 (hheld.mem_iff.1 hid)), Bool.or_true]
      have hkept : (b.queues.filter fun q => !(b.removedBy r).contains q.id) = b.queues := by
        refine List.filter_eq_self.2 fun q hq => ?_
        have hnot : q.id ∉ b.removedBy r := fun hmem =>
          h.sound.removed_closed hr hmem (hopen q.id (List.mem_map_of_mem hq))
        simpa using hnot
      obtain ⟨wakes, hdone⟩ := h.sound.drive_deliver hr hw
      refine ⟨h.sound.drive, ?_, ?_, fun r' hr' => ?_, ?_, fun id hid => ?_⟩
      · rw [hdone, passGate_eq]
        exact h.isOpen
      · rw [hdone, passGate_eq]
        change ((b.queues.filter _).map _).map _ = _
        rw [hkept, List.map_map]
        exact h.ids
      · rw [hdone] at hr'
        exact absurd hr' (gate_passGate_ne _ r')
      · rw [hdone, passGate_eq]
        change b.stats.deliveries + _ = _
        rw [hcounts, hheld.length_eq, List.length_range, h.deliveries, List.length_append,
          List.length_singleton, Nat.add_mul, Nat.one_mul]
      · obtain ⟨es, hes, hall⟩ := h.fed id hid
        refine ⟨es ++ [e], ?_, by rw [← List.append_assoc, hall]⟩
        rw [contents_drive_deliver h.sound hr hw, hes, Option.map_some,
          if_pos ((h.mem_targets hr).2 hid), hrequest]
    · rw [drive_eq_wait hr (h.sound.nodup_ahead hr) hw] at hd
      simp at hd

/-- **A receiver finds nothing, or the next event.** -/
theorem take_cases (h : Wide n published received b) {id : Nat} (hid : id < n) :
    b.take id = (.nothing, b, []) ∨ ∃ e, (b.take id).1 = .event e ∧
      Wide n published (Function.update received id (received id ++ [e])) (b.take id).2.1 := by
  obtain ⟨es, hes, hall⟩ := h.fed id hid
  rcases es with _ | ⟨e, es⟩
  · have hgone : b.isGone = false := by
      simp [isGone, h.isOpen]
    refine Or.inl ?_
    rw [take_of_nil hes, hgone]
    rfl
  · obtain ⟨htaken, hcontents⟩ := take_of_cons hes
    have hrest : (b.take id).2.1.isOpen = b.isOpen ∧ (b.take id).2.1.gate = b.gate ∧
        (b.take id).2.1.stats = b.stats := by
      rw [take_eq]
      exact ⟨rfl, rfl, rfl⟩
    refine Or.inr ⟨e, htaken, h.sound.take id, ?_, ?_, ?_, ?_, fun x hx => ?_⟩
    · rw [hrest.1]
      exact h.isOpen
    · rw [ids_take]
      exact h.ids
    · rw [hrest.2.1]
      exact h.aimed
    · rw [hrest.2.2]
      exact h.deliveries
    · rw [hcontents]
      by_cases hxid : x = id
      · subst hxid
        rw [if_pos rfl, Function.update_self]
        exact ⟨es, rfl, by rw [List.append_assoc]; exact hall⟩
      · rw [if_neg hxid, Function.update_of_ne hxid]
        exact h.fed x hx

end Wide
end Bus
end StatusRelay
