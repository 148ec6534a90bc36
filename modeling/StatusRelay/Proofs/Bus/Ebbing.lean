/-
# Subscribers who leave

All subscriptions were made before the first publish, as for `Wide`. Then they are given up, one
after the other, while publishes go on and others are given up. Who has left gets nothing more; a
publish that has reserved a slot for it counts that delivery, another one does not. So of the
deliveries no more is known than how many publishes were completed while everybody was there.

| operation | published | deliveries |
| --- | --- | --- |
| `request`, `cancel`, `unsubscribe`, a `drive` that waits | as before | as before |
| a `drive` that delivers | one event more | up to `n` more |

`Wide` and `Ebbing` survive the same operations of those who are still there. `Bus.Follows` says
which these are, so that what follows from them needs to be proved only once.
-/

import StatusRelay.Proofs.Bus.Fanout
import StatusRelay.Proofs.Bus.Register
import StatusRelay.World.Strides

namespace StatusRelay
namespace Bus

variable {b b' : Bus} {i id n prompt : Nat} {e : Event} {published : List Event}
  {received : Nat → List Event}

/-! ### Publishes that are asked for late -/

theorem pose_of_mem (h : i ∈ b.waiting) (e : Event) : b.pose i e = b :=
  if_pos (List.contains_iff_mem.2 h)

theorem pose_of_notMem (h : i ∉ b.waiting) (e : Event) : b.pose i e = b.request i e :=
  if_neg fun hmem => h (List.contains_iff_mem.1 hmem)

/-- No publish is under way under a ticket that no request has. -/
theorem Poses.of_notMem (h : i ∉ b.waiting) (asked : Option Event) : b.Poses i asked :=
  fun p hp hpi => absurd (waiting_eq b ▸ List.mem_map.2 ⟨p, hp, hpi⟩) h

theorem Sound.pose (hb : b.Sound) (i : Nat) (e : Event) : (b.pose i e).Sound := by
  by_cases hi : i ∈ b.waiting
  · rw [pose_of_mem hi]
    exact hb
  · rw [pose_of_notMem hi]
    exact hb.request e hi

/-- Whoever asks for the publish of an event, now or before, has asked for that one. -/
theorem Poses.pose (h : b.Poses i (some e)) (hb : b.Sound) : (b.pose i e).Poses i (some e) := by
  by_cases hi : i ∈ b.waiting
  · rw [pose_of_mem hi]
    exact h
  · rw [pose_of_notMem hi]
    exact (Poses.of_notMem hi none).request hb e

/-! ### What survives the operations of those who are there -/

/-- **What a bus keeps while publishes are asked for and completed,** and while subscribers receive
events, or leave because no more will come. -/
structure Follows (n : Nat) (P : List Event → (Nat → List Event) → Bus → Prop) : Prop where
  sound {published : List Event} {received : Nat → List Event} {b : Bus}
    (h : P published received b) : b.Sound
  request {published : List Event} {received : Nat → List Event} {b : Bus}
    (h : P published received b) (e : Event) {i : Nat} (hi : b.Poses i none) :
    P published received (b.request i e)
  drive_wait {published : List Event} {received : Nat → List Event} {b : Bus}
    (h : P published received b) (hd : b.drive.2.1 = none) : P published received b.drive.1
  drive_done {published : List Event} {received : Nat → List Event} {b : Bus}
    (h : P published received b) {i : Nat} {e : Event} (hasked : b.Poses i (some e))
    (hholder : b.gate.holder? = some i) {done : Nat × Nat} (hd : b.drive.2.1 = some done) :
    P (published ++ [e]) received b.drive.1
  take {published : List Event} {received : Nat → List Event} {b : Bus}
    (h : P published received b) {id : Nat} (hid : id < n) {e : Event}
    (htake : (b.take id).1 = .event e) :
    P published (Function.update received id (received id ++ [e])) (b.take id).2.1
  leave {published : List Event} {received : Nat → List Event} {b : Bus}
    (h : P published received b) {id : Nat} (hid : id < n) (htake : (b.take id).1 = .closed) :
    P published received (b.unsubscribe id).1

theorem Follows.pose {P : List Event → (Nat → List Event) → Bus → Prop} (hP : Follows n P)
    (h : P published received b) (i : Nat) (e : Event) : P published received (b.pose i e) := by
  by_cases hi : i ∈ b.waiting
  · rw [pose_of_mem hi]
    exact h
  · rw [pose_of_notMem hi]
    exact hP.request h e (Poses.of_notMem hi none)

/-- While everybody is there, nobody misses anything. -/
theorem Wide.follows (n : Nat) : Follows n (Wide n) where
  sound h := h.sound
  request h e _ hi := h.request e hi
  drive_wait h hd := h.drive_wait hd
  drive_done h _ _ hasked hholder _ hd := h.drive_done hasked hholder hd
  take h id hid e htake := by
    rcases h.take_cases hid with hnothing | ⟨e', htaken, hwide⟩
    · simp [hnothing] at htake
    · rw [htake] at htaken
      exact Taken.event.inj htaken ▸ hwide
  leave h id hid htake := by
    rcases h.take_cases hid with hnothing | ⟨e', htaken, -⟩
    · simp [hnothing] at htake
    · simp [htake] at htaken

/-! ### Subscribers who leave -/

/-- **Each of `n` subscriptions got the first `prompt` publishes,** and gets all others for as long
as it exists. -/
structure Ebbing (n prompt : Nat) (published : List Event) (received : Nat → List Event) (b : Bus) :
    Prop where
  sound : b.Sound
  registered : ∀ id ∈ b.ids, id < n
  aimed : ∀ r, b.gate = .reserving r → ∀ id, b.isOpenAt id = true → id ∈ r.targets
  least : prompt * n ≤ b.stats.deliveries
  most : b.stats.deliveries ≤ published.length * n
  taken : ∀ id < n, received id <+: published
  fed : ∀ id es, b.contents id = some es → received id ++ es = published

/-- Nobody has left so far. -/
theorem Wide.ebbing (h : Wide n published received b) :
    Ebbing n published.length published received b := by
  have hregistered : ∀ id ∈ b.ids, id < n := fun id hid => by
    rw [h.ids] at hid
    exact List.mem_range.1 hid
  have hopen : ∀ id, b.isOpenAt id = true → id < n := fun id hid => by
    obtain ⟨q, hq, rfl, -⟩ := exists_queue_of_isOpenAt hid
    exact hregistered _ (List.mem_map_of_mem hq)
  refine ⟨h.sound, hregistered, fun r hr id hid => h.aimed r hr id (hopen id hid),
    h.deliveries.ge, h.deliveries.le, fun id hid => ?_, fun id es hes => ?_⟩
  · obtain ⟨es, -, hall⟩ := h.fed id hid
    exact ⟨es, hall⟩
  · obtain ⟨es', hes', hall⟩ := h.fed id (hopen id (by rw [← isSome_contents, hes]; rfl))
    obtain rfl := Option.some.inj (hes.symm.trans hes')
    exact hall

namespace Ebbing

/-- The publish at the gate goes to all that are there. -/
theorem mem_targets (h : Ebbing n prompt published received b) {r : Reservation}
    (hr : b.start? = some r) (hid : b.isOpenAt id = true) : id ∈ r.targets := by
  unfold start? at hr
  split at hr
  · simp at hr
  · obtain rfl := Option.some.inj hr
    obtain ⟨q, hq, rfl, -⟩ := exists_queue_of_isOpenAt hid
    exact List.mem_append_right _ (List.mem_map_of_mem hq)
  · rename_i r' hg
    obtain rfl := Option.some.inj hr
    exact h.aimed r' hg id hid

theorem request (h : Ebbing n prompt published received b) (e : Event) (hi : b.Poses i none) :
    Ebbing n prompt published received (b.request i e) := by
  have hqueues : (b.request i e).queues = b.queues := by
    unfold Bus.request
    split <;> rfl
  have hstats : (b.request i e).stats = b.stats := by
    unfold Bus.request
    split <;> rfl
  have hcontents := contents_congr hqueues
  have hopen (id : Nat) : (b.request i e).isOpenAt id = b.isOpenAt id := by
    rw [← isSome_contents, hcontents, isSome_contents]
  refine ⟨h.sound.request e hi.notMem_waiting, ?_, fun r hr id hid => ?_, ?_, ?_, h.taken, ?_⟩
  · unfold Bus.ids
    rw [hqueues]
    exact h.registered
  · exact h.aimed r (gate_request_eq_reserving.1 hr) id (hopen id ▸ hid)
  · rw [hstats]
    exact h.least
  · rw [hstats]
    exact h.most
  · rw [hcontents]
    exact h.fed

/-- A publish that waits delivers nothing. -/
theorem drive_wait (h : Ebbing n prompt published received b) (hd : b.drive.2.1 = none) :
    Ebbing n prompt published received b.drive.1 := by
  have hstats := h.sound.stats_drive_of_none hd
  rcases hr : b.start? with _ | r
  · rw [drive_of_free (start?_eq_none.1 hr)]
    exact h
  · by_cases hw : b.aheadOf r = []
    · obtain ⟨wakes, hdone⟩ := h.sound.drive_deliver hr hw
      rw [hdone] at hd
      simp at hd
    · have heq := drive_eq_wait hr (h.sound.nodup_ahead hr) hw
      have hcontents := contents_drive_wait h.sound hr hw
      refine ⟨h.sound.drive, ?_, fun r' hr' id hid => ?_, ?_, ?_, h.taken, ?_⟩
      · rw [heq]
        exact (ids_hold b _).symm ▸ h.registered
      · rw [← isSome_contents, hcontents, isSome_contents] at hid
        rw [heq] at hr'
        obtain rfl := Gate.reserving.inj hr'
        exact (targets_perm b r).mem_iff.2 (h.mem_targets hr hid)
      · rw [hstats]
        exact h.least
      · rw [hstats]
        exact h.most
      · rw [hcontents]
        exact h.fed

/-- **What is published goes to all that are there.** -/
theorem drive_done (h : Ebbing n prompt published received b) (hasked : b.Poses i (some e))
    (hholder : b.gate.holder? = some i) {done : Nat × Nat} (hd : b.drive.2.1 = some done) :
    Ebbing n prompt (published ++ [e]) received b.drive.1 := by
  obtain ⟨hpending, -⟩ := hasked.drive h.sound hholder hd
  rcases hr : b.start? with _ | r
  · rw [drive_of_free (start?_eq_none.1 hr)] at hd
    simp at hd
  · by_cases hw : b.aheadOf r = []
    · have hrequest : r.request = ⟨i, e⟩ := by
        rw [pending_of_start? hr] at hpending
        exact (List.cons.inj hpending).1
      -- The queues to which it delivers are registered, and no two of them are the same.
      have hheld : (b.heldBy r).length ≤ n := by
        have hsub : b.heldBy r ⊆ List.range n := fun id hid => List.mem_range.2
          (h.registered id (h.sound.targets_registered hr id ((targets_perm b r).mem_iff.1
            (List.mem_append_left _ (List.mem_append_left _ hid)))))
        have hlength := length_outside List.nodup_range (h.sound.nodup_heldBy hr) hsub
        rw [List.length_range] at hlength
        exact hlength ▸ Nat.le_add_left _ _
      have hcounted := (List.length_filter_le b.counts (b.heldBy r)).trans hheld
      obtain ⟨wakes, hdone⟩ := h.sound.drive_deliver hr hw
      have hdeliveries : b.drive.1.stats.deliveries =
          b.stats.deliveries + ((b.heldBy r).filter b.counts).length := by
        rw [hdone, passGate_eq]
        rfl
      refine ⟨h.sound.drive, fun id hid => ?_, fun r' hr' => ?_, ?_, ?_, fun id hid => ?_,
        fun id es' hes => ?_⟩
      · have hids : b.drive.1.ids = (b.deliver r).ids := by
          rw [hdone, passGate_eq]
          rfl
        rw [hids] at hid
        exact h.registered id (mem_ids_deliver.1 hid).1
      · rw [hdone] at hr'
        exact absurd hr' (gate_passGate_ne _ r')
      · rw [hdeliveries]
        exact h.least.trans (Nat.le_add_right _ _)
      · rw [hdeliveries, List.length_append, List.length_singleton, Nat.add_mul, Nat.one_mul]
        exact Nat.add_le_add h.most hcounted
      · exact (h.taken id hid).trans (List.prefix_append _ _)
      · rw [contents_drive_deliver h.sound hr hw] at hes
        obtain ⟨es, hc, rfl⟩ := Option.map_eq_some_iff.1 hes
        have hopen : b.isOpenAt id = true := by
          rw [← isSome_contents, hc]
          rfl
        rw [if_pos (h.mem_targets hr hopen), hrequest, ← List.append_assoc, h.fed id es hc]
    · rw [drive_eq_wait hr (h.sound.nodup_ahead hr) hw] at hd
      simp at hd

/-- A receiver takes the next event. -/
theorem take (h : Ebbing n prompt published received b) (htake : (b.take id).1 = .event e) :
    Ebbing n prompt published (Function.update received id (received id ++ [e]))
      (b.take id).2.1 := by
  -- Only a queue whose subscription exists holds an event.
  obtain ⟨es, hes⟩ : ∃ es, b.contents id = some (e :: es) := by
    unfold Bus.take at htake
    split at htake
    · rename_i q hq
      split at htake
      · rename_i e' es hitems
        obtain rfl := Taken.event.inj htake
        have hopen : q.isOpen = true := by
          by_contra hclosed
          have := h.sound.emptied q (queue?_eq_some hq).1 (Bool.eq_false_iff.2 hclosed)
          simp [hitems] at this
        refine ⟨es, ?_⟩
        unfold contents
        rw [hq, Option.bind_some, if_pos hopen, hitems]
      · split at htake <;> simp at htake
    · simp at htake
  have hall := h.fed id _ hes
  obtain ⟨-, hcontents⟩ := take_of_cons hes
  have heq := take_eq b id
  refine ⟨h.sound.take id, ?_, fun r hr x hx => ?_, ?_, ?_, fun x hx => ?_, fun x es' hx => ?_⟩
  · rw [ids_take]
    exact h.registered
  · rw [isOpenAt_take] at hx
    rw [heq] at hr
    exact h.aimed r hr x hx
  · rw [heq]
    exact h.least
  · rw [heq]
    exact h.most
  · by_cases hxid : x = id
    · subst hxid
      rw [Function.update_self, ← hall]
      exact ⟨es, by rw [List.append_assoc]; rfl⟩
    · rw [Function.update_of_ne hxid]
      exact h.taken x hx
  · rw [hcontents] at hx
    by_cases hxid : x = id
    · subst hxid
      rw [if_pos rfl] at hx
      rw [Function.update_self, ← Option.some.inj hx, List.append_assoc]
      exact hall
    · rw [if_neg hxid] at hx
      rw [Function.update_of_ne hxid]
      exact h.fed x es' hx

/-- **A subscriber leaves.** -/
theorem unsubscribe (h : Ebbing n prompt published received b) (id : Nat) :
    Ebbing n prompt published received (b.unsubscribe id).1 := by
  have hids : (b.unsubscribe id).1.ids = b.ids := by
    unfold Bus.unsubscribe
    rw [modify_eq_modifyEach]
    exact ids_modifyEach (f := fun q => { q with isOpen := false, items := [] }) (fun _ => rfl) [id]
  have hkept (x : Nat) (es : List Event) (hx : (b.unsubscribe id).1.contents x = some es) :
      b.contents x = some es := by
    rw [contents_unsubscribe] at hx
    split at hx
    · simp at hx
    · exact hx
  refine ⟨h.sound.unsubscribe id, hids.symm ▸ h.registered, fun r hr x hx => ?_, h.least, h.most,
    h.taken, fun x es hx => h.fed x es (hkept x es hx)⟩
  obtain ⟨es, hes⟩ := Option.isSome_iff_exists.1 ((isSome_contents _ x).trans hx)
  refine h.aimed r hr x ?_
  rw [← isSome_contents, hkept x es hes]
  rfl

/-- **A publish is given up.** -/
theorem cancel (h : Ebbing n prompt published received b) (ticket : Nat) :
    Ebbing n prompt published received (b.cancel ticket).2.1 := by
  have hcontents := contents_cancel h.sound ticket
  have hstats := h.sound.stats_cancel ticket
  refine ⟨h.sound.cancel ticket, ?_, fun r hr id hid => ?_, ?_, ?_, h.taken, ?_⟩
  · rw [h.sound.ids_cancel]
    exact h.registered
  · rw [← isSome_contents, hcontents, isSome_contents] at hid
    exact h.aimed r (h.sound.reserving_of_cancel hr).1 id hid
  · rw [hstats]
    exact h.least
  · rw [hstats]
    exact h.most
  · rw [hcontents]
    exact h.fed

theorem follows (n prompt : Nat) : Follows n (Ebbing n prompt) where
  sound h := h.sound
  request h e _ hi := h.request e hi
  drive_wait h hd := h.drive_wait hd
  drive_done h _ _ hasked hholder _ hd := h.drive_done hasked hholder hd
  take h _ _ _ htake := h.take htake
  leave h id _ _ := h.unsubscribe id

end Ebbing
end Bus
end StatusRelay
