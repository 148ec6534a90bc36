/-
# What subscribers can still receive

A subscriber sees of a bus the events in its queue and nothing else. `contents b id` is that view:
the events in the queue if the subscription exists, and nothing if it does not. Each operation
changes the view of one subscription at most, but for a delivery:

| operation | the view of `x` afterwards |
| --- | --- |
| `subscribe?` | empty for the new queue |
| `unsubscribe id` | gone for `id` |
| `take id` | without its first event for `id` |
| `request`, `cancel`, `close`, a `drive` that waits | as before |
| a `drive` that delivers | one event more, if `x` was registered when the publish entered |
-/

import StatusRelay.Proofs.Bus.Sound

namespace StatusRelay
namespace Bus

/-- The events that a subscription can still receive, if it exists. -/
def contents (b : Bus) (id : Nat) : Option (List Event) :=
  (b.queue? id).bind fun q => if q.isOpen then some q.items else none

theorem isSome_contents (b : Bus) (id : Nat) : (b.contents id).isSome = b.isOpenAt id := by
  unfold contents isOpenAt
  rcases b.queue? id with _ | q
  · rfl
  · rcases ho : q.isOpen with _ | _ <;> simp [ho]

theorem contents_eq_some_iff {b : Bus} (hb : b.ids.Nodup) {id : Nat} {es : List Event} :
    b.contents id = some es ↔ ∃ q ∈ b.queues, q.id = id ∧ q.isOpen = true ∧ q.items = es := by
  unfold contents
  constructor
  · intro h
    obtain ⟨q, hq, h⟩ := Option.bind_eq_some_iff.1 h
    split at h
    · exact ⟨q, (queue?_eq_some hq).1, (queue?_eq_some hq).2, ‹_›, Option.some.inj h⟩
    · simp at h
  · rintro ⟨q, hq, hid, ho, rfl⟩
    rw [(queue?_eq_some_iff hb).2 ⟨hq, hid⟩, Option.bind_some, if_pos ho]

theorem itemsAt_of_contents {b : Bus} {id : Nat} {es : List Event}
    (h : b.contents id = some es) : b.itemsAt id = es := by
  unfold contents at h
  unfold itemsAt
  obtain ⟨q, hq, h⟩ := Option.bind_eq_some_iff.1 h
  rw [hq]
  split at h
  · exact Option.some.inj h
  · simp at h

/-- The view depends on the queues alone. -/
theorem contents_congr {b b' : Bus} (h : b'.queues = b.queues) : b'.contents = b.contents := by
  funext id
  unfold contents queue?
  rw [h]

theorem contents_modifyEach {b : Bus} {f : Queue → Queue} (hf : ∀ q, (f q).id = q.id)
    (ids : List Nat) (id : Nat) : (b.modifyEach ids f).contents id =
      (b.queue? id).bind fun q =>
        let q := if q.id ∈ ids then f q else q
        if q.isOpen then some q.items else none := by
  unfold contents
  rw [queue?_modifyEach hf, Option.bind_map]
  rfl

/-- A change of slots is not seen. -/
theorem contents_modifyEach_of_view {b : Bus} {f : Queue → Queue} (hf : ∀ q, (f q).id = q.id)
    (hopen : ∀ q, (f q).isOpen = q.isOpen) (hitems : ∀ q, (f q).items = q.items)
    (ids : List Nat) : (b.modifyEach ids f).contents = b.contents := by
  funext id
  rw [contents_modifyEach hf]
  unfold contents
  congr 1
  funext q
  by_cases h : q.id ∈ ids
  · simp only [h, if_true, hopen, hitems]
  · simp only [h, if_false]

/-! ### Operations that are not seen -/

theorem contents_request (b : Bus) (ticket : Nat) (event : Event) :
    (b.request ticket event).contents = b.contents := by
  apply contents_congr
  unfold request
  split <;> rfl

theorem isOpen_request (b : Bus) (ticket : Nat) (event : Event) :
    (b.request ticket event).isOpen = b.isOpen := by
  unfold request
  split <;> rfl

/-- A request does not take the gate from another publish, nor does it enter at once. -/
theorem gate_request_eq_reserving {b : Bus} {ticket : Nat} {event : Event} {r : Reservation} :
    (b.request ticket event).gate = .reserving r ↔ b.gate = .reserving r := by
  unfold request
  split
  · rename_i hg
    simp [hg]
  · rfl

theorem contents_close (b : Bus) : b.close.1.contents = b.contents := contents_congr rfl

theorem contents_passGate (b : Bus) : b.passGate.1.contents = b.contents := by
  apply contents_congr
  unfold passGate
  split <;> rfl

theorem contents_release (b : Bus) : b.release.contents = b.contents := by
  have h : b.release = b.modifyEach b.ids fun q => { q with reserved := 0 } := by
    unfold release modifyEach
    simp only [Bus.mk.injEq, true_and, and_true]
    exact List.map_congr_left fun q hq => (if_pos (List.mem_map_of_mem hq)).symm
  rw [h]
  exact contents_modifyEach_of_view (f := fun q => { q with reserved := 0 }) (fun _ => rfl)
    (fun _ => rfl) (fun _ => rfl) _

/-- **A publish that is given up is not seen by any subscriber.** -/
theorem contents_cancel {b : Bus} (hb : b.Sound) (ticket : Nat) :
    (b.cancel ticket).2.1.contents = b.contents := by
  rcases hb.cancel_cases ticket with ⟨-, hc⟩ | ⟨wakes, -, hc⟩ | ⟨wakes, -, -, hc⟩
  · rw [hc]
  · rw [hc]
    exact (contents_passGate _).trans (contents_release b)
  · rw [hc]
    exact contents_congr rfl

theorem contents_hold (b : Bus) (held : List Nat) : (b.hold held).contents = b.contents := by
  unfold hold
  split
  · exact contents_modifyEach_of_view (f := addSlot) (fun _ => rfl) (fun _ => rfl) (fun _ => rfl) _
  · rfl

/-! ### Operations of subscribers -/

theorem contents_subscribe {b b' : Bus} (hb : b.Sound) {id : Nat}
    (h : b.subscribe? = some (id, b')) (x : Nat) :
    b'.contents x = if x = id then some [] else b.contents x := by
  have hb' := hb.subscribe h
  obtain ⟨rfl, rfl⟩ := subscribe?_eq h
  split
  · rename_i hx
    subst hx
    rw [contents_eq_some_iff hb'.nodup]
    exact ⟨_, List.mem_append_right _ (List.mem_singleton.2 rfl), rfl, rfl, rfl⟩
  · rename_i hx
    refine Option.ext fun es => ?_
    rw [contents_eq_some_iff hb'.nodup, contents_eq_some_iff hb.nodup]
    constructor
    · rintro ⟨q, hq, rfl, ho, rfl⟩
      rcases List.mem_append.1 hq with hq | hq
      · exact ⟨q, hq, rfl, ho, rfl⟩
      · rw [List.mem_singleton.1 hq] at hx
        simp at hx
    · rintro ⟨q, hq, rfl, ho, rfl⟩
      exact ⟨q, List.mem_append_left _ hq, rfl, ho, rfl⟩

theorem contents_unsubscribe (b : Bus) (id x : Nat) :
    (b.unsubscribe id).1.contents x = if x = id then none else b.contents x := by
  unfold unsubscribe
  rw [modify_eq_modifyEach,
    contents_modifyEach (f := fun q => { q with isOpen := false, items := [] }) fun _ => rfl]
  unfold contents
  rcases hq : b.queue? x with _ | q
  · simp
  · obtain ⟨-, rfl⟩ := queue?_eq_some hq
    by_cases h : q.id = id
    · simp [h]
    · simp [h]

/-- A subscriber that finds nothing changes nothing. -/
theorem take_of_nil {b : Bus} {id : Nat} (h : b.contents id = some []) :
    b.take id = (if b.isGone then .closed else .nothing, b, []) := by
  unfold contents at h
  obtain ⟨q, hq, h⟩ := Option.bind_eq_some_iff.1 h
  split at h
  · unfold take
    rw [hq]
    simp only [Option.some.inj h]
  · simp at h

/-- **A subscriber receives the oldest event of its queue.** -/
theorem take_of_cons {b : Bus} {id : Nat} {e : Event} {es : List Event}
    (h : b.contents id = some (e :: es)) : (b.take id).1 = .event e ∧
      ∀ x, (b.take id).2.1.contents x = if x = id then some es else b.contents x := by
  unfold contents at h
  obtain ⟨q, hq, h⟩ := Option.bind_eq_some_iff.1 h
  split at h
  · rename_i ho
    have hi := Option.some.inj h
    obtain ⟨-, rfl⟩ := queue?_eq_some hq
    unfold take
    rw [hq]
    simp only [hi, true_and]
    intro x
    rw [modify_eq_modifyEach,
      contents_modifyEach (f := fun q => { q with items := es }) fun _ => rfl]
    unfold contents
    by_cases hx : x = q.id
    · subst hx
      simp [hq, ho]
    · rw [if_neg hx]
      rcases hq' : b.queue? x with _ | q'
      · rfl
      · obtain ⟨-, rfl⟩ := queue?_eq_some hq'
        simp [hx]
  · simp at h

/-- A queue after a receive: one event less, or as before. -/
theorem queue?_take (b : Bus) (id x : Nat) : (b.take id).2.1.queue? x = b.queue? x ∨
    ∃ q e es, b.queue? x = some q ∧ q.items = e :: es ∧
      (b.take id).2.1.queue? x = some { q with items := es } := by
  unfold take
  split
  · rename_i q hq
    obtain ⟨-, rfl⟩ := queue?_eq_some hq
    split
    · rename_i e es hi
      simp only [modify_eq_modifyEach]
      rw [queue?_modifyEach (f := fun q => { q with items := es }) fun _ => rfl]
      by_cases hx : x = q.id
      · subst hx
        exact Or.inr ⟨q, e, es, hq, hi, by simp [hq]⟩
      · refine Or.inl ?_
        rcases hqx : b.queue? x with _ | q'
        · rfl
        · rw [Option.map_some, if_neg]
          rw [(queue?_eq_some hqx).2]
          simpa using hx
    · exact Or.inl rfl
  · exact Or.inl rfl

/-! ### Operations after which there is less to receive -/

/-- No subscription can receive anything that it could not receive before. -/
def Shrinks (b b' : Bus) : Prop := ∀ id es', b'.contents id = some es' →
  ∃ es, b.contents id = some es ∧ es'.Sublist es

theorem Shrinks.of_eq {b b' : Bus} (h : b'.contents = b.contents) : Shrinks b b' :=
  fun _ es' hes => ⟨es', h ▸ hes, List.Sublist.refl es'⟩

theorem Shrinks.trans {b b' b'' : Bus} (h : Shrinks b b') (h' : Shrinks b' b'') :
    Shrinks b b'' := by
  intro id es'' hes
  obtain ⟨es', hes', hsub'⟩ := h' id es'' hes
  obtain ⟨es, hes, hsub⟩ := h id es' hes'
  exact ⟨es, hes, hsub'.trans hsub⟩

theorem shrinks_take (b : Bus) (id : Nat) : Shrinks b (b.take id).2.1 := by
  intro x es' hes
  rcases queue?_take b id x with hq | ⟨q, e, es, hq, hi, hq'⟩
  · unfold contents at hes ⊢
    rw [hq] at hes
    exact ⟨es', hes, List.Sublist.refl es'⟩
  · unfold contents at hes ⊢
    rw [hq', Option.bind_some] at hes
    rw [hq, Option.bind_some]
    split at hes
    · rename_i ho
      refine ⟨q.items, if_pos ho, ?_⟩
      rw [← Option.some.inj hes, hi]
      exact List.sublist_cons_self e es
    · simp at hes

theorem shrinks_drain (b : Bus) (id : Nat) : Shrinks b (b.drain id).2.1 := by
  unfold drain
  split
  · intro x es' hes
    rw [modify_eq_modifyEach,
      contents_modifyEach (f := fun q => { q with items := [] }) fun _ => rfl] at hes
    obtain ⟨q, hq, hes⟩ := Option.bind_eq_some_iff.1 hes
    unfold contents
    rw [hq, Option.bind_some]
    by_cases hid : q.id ∈ [id]
    · simp only [if_pos hid] at hes
      split at hes
      · rename_i ho
        rw [← Option.some.inj hes]
        exact ⟨q.items, if_pos ho, List.nil_sublist _⟩
      · simp at hes
    · simp only [if_neg hid] at hes
      exact ⟨es', hes, List.Sublist.refl es'⟩
  · exact Shrinks.of_eq rfl

theorem shrinks_unsubscribe (b : Bus) (id : Nat) : Shrinks b (b.unsubscribe id).1 := by
  intro x es' hes
  rw [contents_unsubscribe] at hes
  split at hes
  · simp at hes
  · exact ⟨es', hes, List.Sublist.refl es'⟩

/-! ### A drive -/

theorem contents_drive_wait {b : Bus} (hb : b.Sound) {r : Reservation} (hr : b.start? = some r)
    (hw : b.aheadOf r ≠ []) : b.drive.1.contents = b.contents := by
  rw [drive_eq_wait hr (hb.nodup_ahead hr) hw]
  exact (contents_congr rfl).trans (contents_hold b _)

/-- The event goes to the subscriptions that exist and that the publish has found registered. -/
theorem receive_items {b : Bus} (hb : b.Sound) {r : Reservation} (hr : b.start? = some r)
    (hw : b.aheadOf r = []) {q : Queue} (hq : q ∈ b.queues) (ho : q.isOpen = true) :
    (q.receive r.request.event (b.heldBy r)).items =
      if q.id ∈ r.targets then q.items ++ [r.request.event] else q.items := by
  have h := hb.mem_heldBy_iff hr hw ((isOpenAt_eq hb.nodup hq).trans ho)
  simp only [Queue.receive, ho, true_and, h]

/-- **A delivery** adds the event to the queues that were registered when the publish got past the
gate and whose subscriptions exist. -/
theorem contents_drive_deliver {b : Bus} (hb : b.Sound) {r : Reservation}
    (hr : b.start? = some r) (hw : b.aheadOf r = []) (x : Nat) : b.drive.1.contents x =
      (b.contents x).map fun es => if x ∈ r.targets then es ++ [r.request.event] else es := by
  obtain ⟨wakes, hd⟩ := hb.drive_deliver hr hw
  rw [hd, contents_passGate]
  have hkept : ∀ q ∈ b.queues, q.isOpen = true → q ∈ b.queues.filter fun q =>
      !(b.removedBy r).contains q.id := by
    intro q hq ho
    have hopen := (isOpenAt_eq hb.nodup hq).trans ho
    simp only [List.mem_filter, hq, true_and, Bool.not_eq_true', List.contains_eq_mem,
      decide_eq_false_iff_not]
    exact fun hm => hb.removed_closed hr hm hopen
  have hnd : (b.deliver r).ids.Nodup := by
    have hs : (b.deliver r).ids.Sublist b.ids := by
      unfold ids deliver
      rw [List.map_map]
      exact List.Sublist.map _ List.filter_sublist
    exact hb.nodup.sublist hs
  refine Option.ext fun es => ?_
  rw [contents_eq_some_iff hnd, Option.map_eq_some_iff]
  constructor
  · rintro ⟨q, hq, rfl, ho, rfl⟩
    obtain ⟨p, hp, rfl⟩ := List.mem_map.1 hq
    replace hp := List.mem_of_mem_filter hp
    refine ⟨p.items, (contents_eq_some_iff hb.nodup).2 ⟨p, hp, rfl, ho, rfl⟩, ?_⟩
    exact (receive_items hb hr hw hp ho).symm
  · rintro ⟨es', h, rfl⟩
    obtain ⟨p, hp, rfl, ho, rfl⟩ := (contents_eq_some_iff hb.nodup).1 h
    exact ⟨_, List.mem_map_of_mem (hkept p hp ho), rfl, ho, receive_items hb hr hw hp ho⟩

theorem shrinks_drive_of_none {b : Bus} (hb : b.Sound) (h : b.drive.2.1 = none) :
    Shrinks b b.drive.1 := by
  rcases hr : b.start? with _ | r
  · rw [drive_of_free (start?_eq_none.1 hr)]
    exact Shrinks.of_eq rfl
  · by_cases hw : b.aheadOf r = []
    · obtain ⟨wakes, hd⟩ := hb.drive_deliver hr hw
      rw [hd] at h
      simp at h
    · exact Shrinks.of_eq (contents_drive_wait hb hr hw)

/-- A drive that delivers brings the event of the first publish under way, and no other. -/
theorem contents_drive_of_some {b : Bus} (hb : b.Sound) {done : Nat × Nat}
    (h : b.drive.2.1 = some done) {p : Publication} {rest : List Publication}
    (hp : b.pending = p :: rest) {x : Nat} {es' : List Event}
    (hes : b.drive.1.contents x = some es') :
    ∃ es, b.contents x = some es ∧ es'.Sublist (es ++ [p.event]) := by
  rcases hr : b.start? with _ | r
  · rw [drive_of_free (start?_eq_none.1 hr)] at h
    simp at h
  · by_cases hw : b.aheadOf r = []
    · rw [pending_of_start? hr] at hp
      obtain ⟨rfl, -⟩ := List.cons.inj hp
      rw [contents_drive_deliver hb hr hw] at hes
      obtain ⟨es, hc, rfl⟩ := Option.map_eq_some_iff.1 hes
      refine ⟨es, hc, ?_⟩
      split
      · exact List.Sublist.refl _
      · exact List.sublist_append_left es _
    · rw [drive_eq_wait hr (hb.nodup_ahead hr) hw] at h
      simp at h

end Bus
end StatusRelay
