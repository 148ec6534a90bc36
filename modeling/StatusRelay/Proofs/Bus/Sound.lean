/-
# What holds of a bus at every moment

`Sound` is kept by every operation. Its parts are about different things:

* *register*: the numbers of the queues grow in the order of subscription, and the next one is
  larger than all;
* *room*: a queue without a subscription is empty, and no bounded queue has more events and
  reserved slots than it can hold;
* *slots*: a slot is reserved exactly in the queues that the publish at the gate holds, one in
  each, so a bus whose gate is free has none;
* *gate*: nobody waits in line at a free gate, and a publish that waits inside the gate has queues
  ahead of it, all of them registered, and has passed each queue once;
* *tickets*: no two publishes under way have one ticket.

`Sound.drive_wait` and `Sound.drive_deliver` say what a drive makes of a sound bus.
-/

import StatusRelay.Proofs.Bus.Publish

namespace StatusRelay

/-- What holds of a publish that waits at a queue. -/
structure Reservation.Sound (b : Bus) (r : Reservation) : Prop where
  nodup : r.targets.Nodup
  registered : ∀ id ∈ r.targets, id ∈ b.ids
  gone : ∀ id ∈ r.gone, b.isOpenAt id = false
  waits : r.ahead ≠ []
  bounded : b.capacity.isSome

namespace Bus

/-- What holds of a bus at every moment. -/
structure Sound (b : Bus) : Prop where
  sorted : b.ids.Pairwise (· < ·)
  bound : ∀ id ∈ b.ids, id < b.nextId
  emptied : ∀ q ∈ b.queues, q.isOpen = false → q.items = []
  room : ∀ c, b.capacity = some c → 1 ≤ c ∧ ∀ q ∈ b.queues, q.items.length + q.reserved ≤ c
  slots : ∀ q ∈ b.queues, q.reserved = if q.id ∈ b.slots then 1 else 0
  line : b.gate = .free → b.line = []
  gate : ∀ r, b.gate = .reserving r → r.Sound b
  tickets : (b.pending.map (·.ticket)).Nodup

/-- Choosing queues by their numbers and changing them are independent. -/
theorem filter_map_of_id {f : Queue → Queue} (hf : ∀ q, (f q).id = q.id) (P : Nat → Bool)
    (qs : List Queue) :
    (qs.map f).filter (fun q => P q.id) = (qs.filter fun q => P q.id).map f := by
  rw [List.filter_map]
  congr 1
  exact List.filter_congr fun q _ => congrArg P (hf q)

/-- A publish has every queue either behind it or ahead of it. -/
theorem targets_perm (b : Bus) (r : Reservation) :
    (b.heldBy r ++ b.goneBy r ++ b.aheadOf r).Perm r.targets := by
  rw [List.perm_iff_count]
  intro id
  have h₁ := (List.filter_append_perm b.takes (r.ahead.takeWhile b.passes)).count_eq id
  have h₂ := congrArg (List.count id)
    (List.takeWhile_append_dropWhile (p := b.passes) (l := r.ahead))
  simp only [heldBy, goneBy, aheadOf, Reservation.targets, List.count_append] at h₁ h₂ ⊢
  omega

namespace Sound

variable {b : Bus}

theorem new (capacity : Option Nat) : (Bus.new capacity).Sound where
  sorted := List.Pairwise.nil
  bound := by simp [ids, Bus.new]
  emptied := by simp [Bus.new]
  room := by
    intro c hc
    simp only [Bus.new, Option.map_eq_some_iff] at hc
    obtain ⟨a, -, rfl⟩ := hc
    exact ⟨Nat.le_max_left _ _, by simp [Bus.new]⟩
  slots := by simp [Bus.new]
  line := fun _ => rfl
  gate := by simp [Bus.new]
  tickets := by simp [pending, Gate.publication?, Bus.new]

theorem nodup (hb : b.Sound) : b.ids.Nodup := hb.sorted.imp Nat.ne_of_lt

/-! ### The publish at the gate -/

section Start

variable {r : Reservation}

theorem held_eq_slots (hr : b.start? = some r) : r.held = b.slots := by
  unfold start? at hr
  unfold Bus.slots
  split at hr
  · simp at hr
  · rename_i p hg
    obtain rfl := Option.some.inj hr
    rw [hg]
  · rename_i r' hg
    obtain rfl := Option.some.inj hr
    rw [hg]

theorem nodup_targets (hb : b.Sound) (hr : b.start? = some r) : r.targets.Nodup := by
  unfold start? at hr
  split at hr
  · simp at hr
  · obtain rfl := Option.some.inj hr
    simpa [Reservation.targets] using hb.nodup
  · rename_i r' hg
    obtain rfl := Option.some.inj hr
    exact (hb.gate r' hg).nodup

theorem targets_registered (hb : b.Sound) (hr : b.start? = some r) :
    ∀ id ∈ r.targets, id ∈ b.ids := by
  unfold start? at hr
  split at hr
  · simp at hr
  · obtain rfl := Option.some.inj hr
    simp [Reservation.targets]
  · rename_i r' hg
    obtain rfl := Option.some.inj hr
    exact (hb.gate r' hg).registered

theorem gone_closed (hb : b.Sound) (hr : b.start? = some r) :
    ∀ id ∈ r.gone, b.isOpenAt id = false := by
  unfold start? at hr
  split at hr
  · simp at hr
  · obtain rfl := Option.some.inj hr
    simp
  · rename_i r' hg
    obtain rfl := Option.some.inj hr
    exact (hb.gate r' hg).gone

theorem nodup_ahead (hb : b.Sound) (hr : b.start? = some r) : r.ahead.Nodup :=
  (List.nodup_append.1 (hb.nodup_targets hr)).2.1

theorem nodup_heldBy (hb : b.Sound) (hr : b.start? = some r) : (b.heldBy r).Nodup := by
  have h := (targets_perm b r).nodup_iff.2 (hb.nodup_targets hr)
  exact (List.nodup_append.1 (List.nodup_append.1 h).1).1

/-- **A queue that a publish holds has room for one more event.** -/
theorem room_of_heldBy (hb : b.Sound) (hr : b.start? = some r) {c : Nat}
    (hc : b.capacity = some c) {q : Queue} (hq : q ∈ b.queues) (h : q.id ∈ b.heldBy r) :
    q.items.length + 1 ≤ c := by
  have hroom := (hb.room c hc).2 q hq
  rcases List.mem_append.1 h with h | h
  · have hs := hb.slots q hq
    rw [← held_eq_slots hr, if_pos h] at hs
    omega
  · obtain ⟨hpass, htake⟩ := List.mem_filter.1 h
    replace hpass := List.mem_takeWhile_imp hpass
    have hopen : q.isOpen = true := by
      rw [takes, hc, isOpenAt_eq hb.nodup hq] at htake
      simpa using htake
    rw [passes, hc, (queue?_eq_some_iff hb.nodup).2 ⟨hq, rfl⟩] at hpass
    simp only [hopen, Queue.hasRoom, Bool.not_true, Bool.false_or, decide_eq_true_eq] at hpass
    omega

/-- **A queue with a subscription is held once it is passed,** and was registered when the
publish got past the gate. -/
theorem mem_heldBy_iff (hb : b.Sound) (hr : b.start? = some r) (hw : b.aheadOf r = []) {id : Nat}
    (ho : b.isOpenAt id = true) : id ∈ b.heldBy r ↔ id ∈ r.targets := by
  have hperm := targets_perm b r
  rw [hw, List.append_nil] at hperm
  rw [← hperm.mem_iff, List.mem_append]
  refine ⟨Or.inl, fun h => h.resolve_right fun hg => ?_⟩
  rcases List.mem_append.1 hg with hg | hg
  · rw [hb.gone_closed hr id hg] at ho
    simp at ho
  · have ht := (List.mem_filter.1 hg).2
    simp [takes, ho] at ht

/-- **Only queues without a subscription are removed.** -/
theorem removed_closed (hb : b.Sound) (hr : b.start? = some r) {id : Nat}
    (h : id ∈ b.removedBy r) : ¬b.isOpenAt id = true := by
  intro ho
  rcases List.mem_append.1 h with hg | hh
  · rcases List.mem_append.1 hg with hg | hg
    · rw [hb.gone_closed hr id hg] at ho
      simp at ho
    · have ht := (List.mem_filter.1 hg).2
      simp [takes, ho] at ht
  · have hc := (List.mem_filter.1 hh).2
    simp [counts_eq, ho] at hc

/-- What becomes of a registered queue between a drive's beginning and the end of its delivery. -/
theorem fillSlot_hold (hb : b.Sound) (hr : b.start? = some r) {q : Queue} (hq : q ∈ b.queues)
    (event : Event) :
    (let q' := if b.capacity.isSome ∧ q.id ∈ (r.ahead.takeWhile b.passes).filter b.takes then
        addSlot q else q
      if q'.id ∈ b.heldBy r then fillSlot event q' else q') = q.receive event (b.heldBy r) := by
  have hs := hb.slots q hq
  rw [← held_eq_slots hr] at hs
  have hnd := (List.nodup_append.1 (hb.nodup_heldBy hr)).2.2
  have hid : ∀ P : Prop, ∀ _ : Decidable P, (if P then addSlot q else q).id = q.id := by
    intro P _
    split <;> rfl
  simp only [hid, Queue.receive, heldBy, List.mem_append]
  by_cases hh : q.id ∈ r.held
  · have hf : q.id ∉ (r.ahead.takeWhile b.passes).filter b.takes := fun hf => hnd _ hh _ hf rfl
    rw [if_pos hh] at hs
    rw [if_pos (Or.inl hh), if_neg (fun h => hf h.2)]
    simp [fillSlot, hh, hs]
  · rw [if_neg hh] at hs
    by_cases hf : q.id ∈ (r.ahead.takeWhile b.passes).filter b.takes
    · rw [if_pos (Or.inr hf)]
      by_cases hc : b.capacity.isSome
      · rw [if_pos ⟨hc, hf⟩]
        simp only [fillSlot, addSlot, hs, hf, or_true, and_true]
      · rw [if_neg (fun h => hc h.1)]
        simp only [fillSlot, hs, hf, or_true, and_true]
    · rw [if_neg (by simp [hh, hf]), if_neg (fun h => hf h.2)]
      simp [hh, hf, ← hs]

/-- **A publish that waits nowhere** delivers to the queues that it holds, and passes the gate
on. -/
theorem drive_deliver (hb : b.Sound) (hr : b.start? = some r) (hw : b.aheadOf r = []) :
    ∃ wakes, b.drive = ((b.deliver r).passGate.1,
      some (r.request.ticket, ((b.heldBy r).filter b.counts).length), wakes) := by
  rw [drive_eq_complete hr (hb.nodup_ahead hr) hw]
  unfold complete
  simp only [foldl_fill _ _ (hb.nodup_heldBy hr), counts_hold]
  refine ⟨_, Prod.ext ?_ (Prod.ext rfl rfl)⟩
  refine congrArg (fun b => (passGate b).1) ?_
  unfold deliver modifyEach removedBy
  rw [hold_eq]
  simp only [Bus.mk.injEq, true_and, and_true, List.map_map]
  rw [filter_map_of_id (P := fun id => !(b.goneBy r ++
    (b.heldBy r).filter fun id => !b.counts id).contains id)]
  · exact List.map_congr_left fun q hq => hb.fillSlot_hold hr (List.mem_of_mem_filter hq) _
  · intro q
    simp only [Function.comp_apply]
    split <;> split <;> rfl

end Start

theorem slots_registered (hb : b.Sound) : ∀ id ∈ b.slots, id ∈ b.ids := by
  intro id hid
  unfold Bus.slots at hid
  split at hid
  · rename_i r hg
    exact (hb.gate r hg).registered id (List.mem_append_left _ (List.mem_append_left _ hid))
  · simp at hid

/-! ### Receivers and subscriptions -/

/-- **Receiving, and giving up a subscription, keep a bus sound:** the numbers and the slots stay,
and a queue only becomes shorter. -/
theorem modify (hb : b.Sound) (id : Nat) {f : Queue → Queue} (hid : ∀ q, (f q).id = q.id)
    (hres : ∀ q, (f q).reserved = q.reserved)
    (hlen : ∀ q ∈ b.queues, q.id = id → (f q).items.length ≤ q.items.length)
    (hopen : ∀ q, (f q).isOpen = true → q.isOpen = true)
    (hemp : ∀ q ∈ b.queues, q.id = id → (f q).isOpen = false → (f q).items = []) :
    (b.modify id f).Sound := by
  rw [modify_eq_modifyEach]
  have hids := ids_modifyEach (b := b) hid [id]
  have hmem : ∀ q ∈ (b.modifyEach [id] f).queues, ∃ p ∈ b.queues, q.id = p.id ∧
      q.reserved = p.reserved ∧ q.items.length ≤ p.items.length ∧
      (q.isOpen = true → p.isOpen = true) ∧ (q.isOpen = false → q.items = []) := by
    intro q hq
    obtain ⟨p, hp, rfl⟩ := mem_modifyEach.1 hq
    split
    · rename_i h
      exact ⟨p, hp, hid p, hres p, hlen p hp (List.mem_singleton.1 h), hopen p,
        hemp p hp (List.mem_singleton.1 h)⟩
    · exact ⟨p, hp, rfl, rfl, Nat.le_refl _, fun h => h, hb.emptied p hp⟩
  have hnd : (b.modifyEach [id] f).ids.Nodup := hids ▸ hb.nodup
  refine ⟨hids ▸ hb.sorted, hids ▸ hb.bound, ?_, ?_, ?_, hb.line, ?_, hb.tickets⟩
  · intro q hq
    obtain ⟨p, hp, -, -, -, -, he⟩ := hmem q hq
    exact he
  · intro c hc
    obtain ⟨hc1, hroom⟩ := hb.room c hc
    refine ⟨hc1, fun q hq => ?_⟩
    obtain ⟨p, hp, -, hr, hl, -, -⟩ := hmem q hq
    have := hroom p hp
    omega
  · intro q hq
    obtain ⟨p, hp, hi, hr, -, -, -⟩ := hmem q hq
    rw [hr, hi]
    exact hb.slots p hp
  · intro r hg
    have hs := hb.gate r hg
    refine ⟨hs.nodup, fun x hx => hids ▸ hs.registered x hx, fun x hx => ?_, hs.waits, hs.bounded⟩
    by_contra ho
    rw [Bool.not_eq_false, isOpenAt_iff hnd] at ho
    obtain ⟨q, hq, rfl, hqo⟩ := ho
    obtain ⟨p, hp, hi, -, -, ho', -⟩ := hmem q hq
    have hcl := hs.gone q.id hx
    rw [hi, isOpenAt_eq hb.nodup hp, ho' hqo] at hcl
    simp at hcl

theorem take (hb : b.Sound) (id : Nat) : (b.take id).2.1.Sound := by
  unfold Bus.take
  split
  · rename_i q hq
    obtain ⟨hmem, rfl⟩ := queue?_eq_some hq
    have hsame : ∀ q' ∈ b.queues, q'.id = q.id → q' = q := fun q' hq' =>
      List.inj_on_of_nodup_map hb.nodup hq' hmem
    split
    · rename_i e rest hi
      refine hb.modify q.id (f := fun q => { q with items := rest }) (fun _ => rfl) (fun _ => rfl)
        ?_ (fun _ h => h) ?_
      · intro q' hq' hid
        rw [hsame q' hq' hid, hi]
        simp
      · intro q' hq' hid hc
        rw [hsame q' hq' hid] at hc
        have he := hb.emptied q hmem hc
        simp [hi] at he
    · exact hb
  · exact hb

theorem drain (hb : b.Sound) (id : Nat) : (b.drain id).2.1.Sound := by
  unfold Bus.drain
  split
  · exact hb.modify id (f := fun q => { q with items := [] }) (fun _ => rfl) (fun _ => rfl)
      (fun _ _ _ => Nat.zero_le _) (fun _ h => h) fun _ _ _ _ => rfl
  · exact hb

theorem unsubscribe (hb : b.Sound) (id : Nat) : (b.unsubscribe id).1.Sound :=
  hb.modify id (f := fun q => { q with isOpen := false, items := [] }) (fun _ => rfl)
    (fun _ => rfl) (fun _ _ _ => Nat.zero_le _) (fun _ h => by simp at h) fun _ _ _ _ => rfl

theorem close (hb : b.Sound) : b.close.1.Sound :=
  ⟨hb.sorted, hb.bound, hb.emptied, hb.room, hb.slots, hb.line,
    fun r hr => let hs := hb.gate r hr; ⟨hs.nodup, hs.registered, hs.gone, hs.waits, hs.bounded⟩,
    hb.tickets⟩

theorem subscribe (hb : b.Sound) {id : Nat} {b' : Bus} (h : b.subscribe? = some (id, b')) :
    b'.Sound := by
  have hids := ids_subscribe h
  have hq := fun x hx => queue?_subscribe h (x := x) hx
  obtain ⟨rfl, rfl⟩ := subscribe?_eq h
  have hnew : b.nextId ∉ b.ids := fun hm => Nat.lt_irrefl _ (hb.bound _ hm)
  refine ⟨?_, ?_, ?_, ?_, ?_, hb.line, ?_, hb.tickets⟩
  · rw [hids, List.pairwise_append]
    refine ⟨hb.sorted, List.pairwise_singleton _ _, fun x hx y hy => ?_⟩
    rw [List.mem_singleton.1 hy]
    exact hb.bound x hx
  · intro x hx
    rw [hids, List.mem_append, List.mem_singleton] at hx
    rcases hx with hx | rfl
    · exact Nat.lt_succ_of_lt (hb.bound x hx)
    · exact Nat.lt_succ_self _
  · intro q hq ho
    rcases List.mem_append.1 hq with hq | hq
    · exact hb.emptied q hq ho
    · rw [List.mem_singleton.1 hq]
  · intro c hc
    obtain ⟨hc1, hroom⟩ := hb.room c hc
    refine ⟨hc1, fun q hq => ?_⟩
    rcases List.mem_append.1 hq with hq | hq
    · exact hroom q hq
    · rw [List.mem_singleton.1 hq]
      simp
  · intro q hq
    rcases List.mem_append.1 hq with hq | hq
    · exact hb.slots q hq
    · rw [List.mem_singleton.1 hq]
      exact (if_neg fun hm => hnew (hb.slots_registered _ hm)).symm
  · intro r hg
    have hs := hb.gate r hg
    refine ⟨hs.nodup, fun x hx => ?_, fun x hx => ?_, hs.waits, hs.bounded⟩
    · rw [hids]
      exact List.mem_append_left _ (hs.registered x hx)
    · have hx' := hs.registered x (List.mem_append_left _ (List.mem_append_right _ hx))
      rw [← hs.gone x hx]
      unfold isOpenAt
      rw [hq x hx']

/-! ### The gate -/

/-- **The gate of a bus without reserved slots can be passed on.** -/
theorem passGate (sorted : b.ids.Pairwise (· < ·)) (bound : ∀ id ∈ b.ids, id < b.nextId)
    (emptied : ∀ q ∈ b.queues, q.isOpen = false → q.items = [])
    (room : ∀ c, b.capacity = some c → 1 ≤ c ∧ ∀ q ∈ b.queues, q.items.length ≤ c)
    (free : ∀ q ∈ b.queues, q.reserved = 0) (tickets : (b.line.map (·.ticket)).Nodup) :
    b.passGate.1.Sound := by
  have hroom : ∀ c, b.capacity = some c →
      1 ≤ c ∧ ∀ q ∈ b.queues, q.items.length + q.reserved ≤ c := by
    intro c hc
    refine ⟨(room c hc).1, fun q hq => ?_⟩
    rw [free q hq]
    exact (room c hc).2 q hq
  unfold Bus.passGate
  split
  · rename_i hl
    refine ⟨sorted, bound, emptied, hroom, free, fun _ => hl, by simp, ?_⟩
    simp [pending, Gate.publication?, hl]
  · rename_i p rest hl
    refine ⟨sorted, bound, emptied, hroom, free, by simp, by simp, ?_⟩
    rw [hl] at tickets
    exact tickets

theorem request (hb : b.Sound) {ticket : Nat} (event : Event) (h : ticket ∉ b.waiting) :
    (b.request ticket event).Sound := by
  have ht := hb.tickets
  rw [waiting_eq] at h
  unfold Bus.request
  split
  · rename_i hg
    have hs : b.slots = [] := slots_eq_nil (by simp [hg])
    refine ⟨hb.sorted, hb.bound, hb.emptied, hb.room, fun q hq => ?_, by simp, by simp, ?_⟩
    · rw [hb.slots q hq, hs]
      rfl
    · simp [pending, Gate.publication?, hb.line hg]
  · rename_i hg
    refine ⟨hb.sorted, hb.bound, hb.emptied, hb.room, hb.slots, fun h => absurd h hg,
      fun r hr => ?_, ?_⟩
    · have hs := hb.gate r hr
      exact ⟨hs.nodup, hs.registered, hs.gone, hs.waits, hs.bounded⟩
    · unfold pending at ht h ⊢
      rw [← List.append_assoc, List.map_append, List.nodup_append]
      refine ⟨ht, by simp, fun x hx y hy => ?_⟩
      rw [List.map_cons, List.map_nil, List.mem_singleton] at hy
      exact hy ▸ ne_of_mem_of_not_mem hx h

/-! ### A publish that waits -/

section Hold

variable {r : Reservation} {c : Nat} {q : Queue}

theorem emptied_hold (hb : b.Sound) (hc : b.capacity = some c) {held : List Nat}
    (hq : q ∈ (b.hold held).queues) (ho : q.isOpen = false) : q.items = [] := by
  obtain ⟨p, hp, rfl⟩ := mem_queues_hold hc hq
  by_cases hh : p.id ∈ held
  · rw [if_pos hh] at ho ⊢
    exact hb.emptied p hp ho
  · rw [if_neg hh] at ho ⊢
    exact hb.emptied p hp ho

/-- No slot is reserved where a publish reserves one. -/
theorem reserved_eq_zero (hb : b.Sound) (hr : b.start? = some r) (hq : q ∈ b.queues)
    (hnew : q.id ∈ (r.ahead.takeWhile b.passes).filter b.takes) : q.reserved = 0 := by
  have hdisj := (List.nodup_append.1 (hb.nodup_heldBy hr)).2.2
  have hs := hb.slots q hq
  rw [← held_eq_slots hr, if_neg fun h => hdisj _ h _ hnew rfl] at hs
  exact hs

/-- There is room for the slots that a publish reserves. -/
theorem room_hold (hb : b.Sound) (hr : b.start? = some r) (hc : b.capacity = some c)
    (hq : q ∈ (b.hold ((r.ahead.takeWhile b.passes).filter b.takes)).queues) :
    q.items.length + q.reserved ≤ c := by
  obtain ⟨p, hp, rfl⟩ := mem_queues_hold hc hq
  by_cases hh : p.id ∈ (r.ahead.takeWhile b.passes).filter b.takes
  · have hroom := hb.room_of_heldBy hr hc hp (List.mem_append_right _ hh)
    have hzero := hb.reserved_eq_zero hr hp hh
    rw [if_pos hh]
    simp only [addSlot, hzero]
    omega
  · rw [if_neg hh]
    exact (hb.room c hc).2 p hp

/-- **A publish has one slot at every queue that it holds,** and there are no others. -/
theorem slots_hold (hb : b.Sound) (hr : b.start? = some r) (hc : b.capacity = some c)
    (hq : q ∈ (b.hold ((r.ahead.takeWhile b.passes).filter b.takes)).queues) :
    q.reserved = if q.id ∈ b.heldBy r then 1 else 0 := by
  obtain ⟨p, hp, rfl⟩ := mem_queues_hold hc hq
  by_cases hh : p.id ∈ (r.ahead.takeWhile b.passes).filter b.takes
  · have hheld : p.id ∈ b.heldBy r := List.mem_append_right _ hh
    have hzero := hb.reserved_eq_zero hr hp hh
    rw [if_pos hh]
    simp [addSlot, hzero, hheld]
  · have hs := hb.slots p hp
    rw [← held_eq_slots hr] at hs
    have hheld : p.id ∈ b.heldBy r ↔ p.id ∈ r.held :=
      List.mem_append.trans (or_iff_left hh)
    rw [if_neg hh, hs]
    simp [hheld]

/-- What a waiting publish has reserved, and what it has still to visit. -/
theorem reservation_wait (hb : b.Sound) (hr : b.start? = some r) (hc : b.capacity = some c)
    (hw : b.aheadOf r ≠ []) {b' : Bus} (hids : b'.ids = b.ids)
    (hopen : ∀ id, b'.isOpenAt id = b.isOpenAt id) (hcap : b'.capacity = b.capacity) :
    Reservation.Sound b' ⟨r.request, b.aheadOf r, b.heldBy r, b.goneBy r⟩ := by
  have hperm := targets_perm b r
  refine ⟨hperm.nodup_iff.2 (hb.nodup_targets hr), fun x hx => ?_, fun x hx => ?_, hw, ?_⟩
  · rw [hids]
    exact hb.targets_registered hr x (hperm.mem_iff.1 hx)
  · rw [hopen]
    rcases List.mem_append.1 hx with hx | hx
    · exact hb.gone_closed hr x hx
    · simpa [takes, hc] using (List.mem_filter.1 hx).2
  · simp [hcap, hc]

/-- **A publish that waits keeps a bus sound.** -/
theorem drive_wait (hb : b.Sound) (hr : b.start? = some r) (hw : b.aheadOf r ≠ []) :
    b.drive.1.Sound := by
  obtain ⟨c, hc⟩ := Option.ne_none_iff_exists'.1 fun h => hw (aheadOf_of_unbounded h r)
  have hids := ids_hold b ((r.ahead.takeWhile b.passes).filter b.takes)
  have hcap := capacity_hold b ((r.ahead.takeWhile b.passes).filter b.takes)
  rw [drive_eq_wait hr (hb.nodup_ahead hr) hw]
  refine ⟨?_, ?_, fun q hq ho => hb.emptied_hold hc hq ho, fun c' hc' => ?_,
    fun q hq => hb.slots_hold hr hc hq, by simp, fun r' hg => ?_, ?_⟩
  · show (b.hold _).ids.Pairwise (· < ·)
    rw [hids]
    exact hb.sorted
  · show ∀ id ∈ (b.hold _).ids, id < (b.hold _).nextId
    rw [hids, hold_eq]
    exact hb.bound
  · obtain rfl := Option.some.inj (hc.symm.trans (hcap.symm.trans hc'))
    exact ⟨(hb.room c hc).1, fun q hq => hb.room_hold hr hc hq⟩
  · obtain rfl := (Gate.reserving.inj hg).symm
    exact hb.reservation_wait hr hc hw hids (isOpenAt_hold b _) hcap
  · have ht := hb.tickets
    rw [pending_of_start? hr] at ht
    rw [hold_eq]
    exact ht

end Hold

/-- **A publish that is completed keeps a bus sound.** -/
theorem drive_done {r : Reservation} (hb : b.Sound) (hr : b.start? = some r)
    (hw : b.aheadOf r = []) : b.drive.1.Sound := by
  obtain ⟨wakes, hd⟩ := hb.drive_deliver hr hw
  rw [hd]
  have hmem : ∀ q ∈ (b.deliver r).queues,
      ∃ p ∈ b.queues, q = p.receive r.request.event (b.heldBy r) := by
    intro q hq
    obtain ⟨p, hp, rfl⟩ := List.mem_map.1 hq
    exact ⟨p, List.mem_of_mem_filter hp, rfl⟩
  have hids : (b.deliver r).ids.Sublist b.ids := by
    unfold ids deliver
    rw [List.map_map]
    exact List.Sublist.map _ List.filter_sublist
  apply Sound.passGate
  · exact hb.sorted.sublist hids
  · exact fun id hid => hb.bound id (hids.subset hid)
  · intro q hq ho
    obtain ⟨p, hp, rfl⟩ := hmem q hq
    have hpo : p.isOpen = false := ho
    simp [Queue.receive, hpo, hb.emptied p hp hpo]
  · intro c hc
    refine ⟨(hb.room c hc).1, fun q hq => ?_⟩
    obtain ⟨p, hp, rfl⟩ := hmem q hq
    have hroom := (hb.room c hc).2 p hp
    unfold Queue.receive
    by_cases h : p.isOpen = true ∧ p.id ∈ b.heldBy r
    · simpa [h] using hb.room_of_heldBy hr hc hp h.2
    · simp only [h, if_false]
      omega
  · intro q hq
    obtain ⟨p, hp, rfl⟩ := hmem q hq
    rfl
  · have ht := hb.tickets
    rw [pending_of_start? hr, List.map_cons] at ht
    exact (List.nodup_cons.1 ht).2

theorem drive (hb : b.Sound) : b.drive.1.Sound := by
  rcases hr : b.start? with _ | r
  · rw [drive_of_free (start?_eq_none.1 hr)]
    exact hb
  · by_cases hw : b.aheadOf r = []
    · exact hb.drive_done hr hw
    · exact hb.drive_wait hr hw

/-! ### Giving up -/

theorem nodup_slots (hb : b.Sound) : b.slots.Nodup := by
  unfold Bus.slots
  split
  · rename_i r hg
    exact (List.nodup_append.1 (List.nodup_append.1 (hb.gate r hg).nodup).1).1
  · exact List.nodup_nil

/-- **Freeing the slots of the publish at the gate frees all slots.** -/
theorem foldl_freeSlot (hb : b.Sound) :
    b.slots.foldl (fun b id => b.modify id freeSlot) b = b.release := by
  rw [foldl_modify (f := freeSlot) (fun _ => rfl) hb.nodup_slots]
  unfold modifyEach release
  simp only [Bus.mk.injEq, true_and, and_true]
  refine List.map_congr_left fun q hq => ?_
  have hres := hb.slots q hq
  by_cases hq' : q.id ∈ b.slots
  · rw [if_pos hq'] at hres
    simp [hq', freeSlot, hres]
  · rw [if_neg hq'] at hres
    simp [hq', ← hres]

/-- **The publish at the gate is given up:** all slots become free, and the gate is passed on. -/
theorem cancel_holder (hb : b.Sound) {ticket : Nat} (h : b.gate.holder? = some ticket) :
    ∃ wakes, b.cancel ticket = (true, b.release.passGate.1, wakes) := by
  have hfree := hb.foldl_freeSlot
  unfold freeSlot at hfree
  unfold Bus.cancel
  rw [if_pos h]
  split
  · rename_i r hg
    rw [slots_reserving hg] at hfree
    rw [if_pos (hb.gate r hg).bounded]
    simp only [hfree]
    exact ⟨_, rfl⟩
  · rename_i hg
    rw [slots_eq_nil fun r h => hg r h] at hfree
    simp only [hfree]
    exact ⟨_, rfl⟩

/-- A publish in line is given up: it leaves the line. -/
theorem cancel_line {ticket : Nat} (h : b.gate.holder? ≠ some ticket)
    (hl : ticket ∈ b.line.map (·.ticket)) :
    ∃ wakes, b.cancel ticket =
      (true, { b with line := b.line.filter (·.ticket != ticket) }, wakes) := by
  unfold Bus.cancel
  have hany : b.line.any (·.ticket == ticket) = true := by
    obtain ⟨p, hp, rfl⟩ := List.mem_map.1 hl
    exact List.any_eq_true.2 ⟨p, hp, by simp⟩
  rw [if_neg h, if_pos hany]
  exact ⟨_, rfl⟩

theorem cancel_none {ticket : Nat} (h : ticket ∉ b.waiting) :
    b.cancel ticket = (false, b, []) := by
  unfold Bus.waiting at h
  rw [List.mem_append, not_or] at h
  have hh : b.gate.holder? ≠ some ticket := by
    intro hg
    rw [hg] at h
    simp at h
  have hany : ¬b.line.any (·.ticket == ticket) = true := by
    simpa using h.2
  unfold Bus.cancel
  rw [if_neg hh, if_neg hany]

/-- **What becomes of a bus when a publish is given up:** nothing if there is none under the
ticket, else the gate is passed on or the line becomes shorter. -/
theorem cancel_cases (hb : b.Sound) (ticket : Nat) :
    (ticket ∉ b.waiting ∧ b.cancel ticket = (false, b, [])) ∨
      (∃ wakes, b.gate.holder? = some ticket ∧
        b.cancel ticket = (true, b.release.passGate.1, wakes)) ∨
      (∃ wakes, b.gate.holder? ≠ some ticket ∧ ticket ∈ b.line.map (·.ticket) ∧
        b.cancel ticket =
          (true, { b with line := b.line.filter (·.ticket != ticket) }, wakes)) := by
  by_cases hh : b.gate.holder? = some ticket
  · obtain ⟨wakes, hc⟩ := hb.cancel_holder hh
    exact Or.inr (Or.inl ⟨wakes, hh, hc⟩)
  · by_cases hl : ticket ∈ b.line.map (·.ticket)
    · obtain ⟨wakes, hc⟩ := cancel_line hh hl
      exact Or.inr (Or.inr ⟨wakes, hh, hl, hc⟩)
    · have hw : ticket ∉ b.waiting := by
        unfold Bus.waiting
        rw [List.mem_append, not_or]
        exact ⟨by simpa using hh, hl⟩
      exact Or.inl ⟨hw, cancel_none hw⟩

/-- **Giving up a publish changes queues, the gate and the line,** nothing else. -/
theorem cancel_eq (hb : b.Sound) (ticket : Nat) : (b.cancel ticket).2.1 = { b with
    queues := (b.cancel ticket).2.1.queues
    gate := (b.cancel ticket).2.1.gate
    line := (b.cancel ticket).2.1.line } := by
  rcases hb.cancel_cases ticket with ⟨-, hc⟩ | ⟨wakes, -, hc⟩ | ⟨wakes, -, -, hc⟩
  · rw [hc]
  · rw [hc, passGate_eq]
    rfl
  · rw [hc]

/-- A publish keeps the gate only if another is given up. -/
theorem reserving_of_cancel (hb : b.Sound) {ticket : Nat} {r : Reservation}
    (h : (b.cancel ticket).2.1.gate = .reserving r) :
    b.gate = .reserving r ∧ r.request.ticket ≠ ticket := by
  have hholder : b.gate = .reserving r → b.gate.holder? = some r.request.ticket := fun hg => by
    rw [hg]
    rfl
  rcases hb.cancel_cases ticket with ⟨hw, hc⟩ | ⟨wakes, -, hc⟩ | ⟨wakes, hh, -, hc⟩
  · rw [hc] at h
    refine ⟨h, fun ht => hw (List.mem_append_left _ ?_)⟩
    simp [hholder h, ht]
  · rw [hc] at h
    exact absurd h (gate_passGate_ne _ r)
  · rw [hc] at h
    exact ⟨h, fun ht => hh (ht ▸ hholder h)⟩

/-- **Giving up a publish keeps a bus sound.** -/
theorem cancel (hb : b.Sound) (ticket : Nat) : (b.cancel ticket).2.1.Sound := by
  rcases hb.cancel_cases ticket with ⟨-, hc⟩ | ⟨wakes, -, hc⟩ | ⟨wakes, -, hl, hc⟩
  · rw [hc]
    exact hb
  · rw [hc]
    have hids : b.release.ids = b.ids := by
      simp [ids, release]
    have hmem : ∀ q ∈ b.release.queues, ∃ p ∈ b.queues, q = { p with reserved := 0 } := by
      intro q hq
      obtain ⟨p, hp, rfl⟩ := List.mem_map.1 hq
      exact ⟨p, hp, rfl⟩
    apply Sound.passGate
    · exact hids ▸ hb.sorted
    · exact hids ▸ hb.bound
    · intro q hq ho
      obtain ⟨p, hp, rfl⟩ := hmem q hq
      exact hb.emptied p hp ho
    · intro c hc
      refine ⟨(hb.room c hc).1, fun q hq => ?_⟩
      obtain ⟨p, hp, rfl⟩ := hmem q hq
      have := (hb.room c hc).2 p hp
      simp only
      omega
    · intro q hq
      obtain ⟨p, hp, rfl⟩ := hmem q hq
      rfl
    · have ht := hb.tickets
      unfold pending at ht
      rw [List.map_append] at ht
      exact (List.nodup_append.1 ht).2.1
  · rw [hc]
    refine ⟨hb.sorted, hb.bound, hb.emptied, hb.room, hb.slots, fun hg => ?_, fun r hr => ?_, ?_⟩
    · rw [hb.line hg] at hl
      simp at hl
    · have hs := hb.gate r hr
      exact ⟨hs.nodup, hs.registered, hs.gone, hs.waits, hs.bounded⟩
    · have ht := hb.tickets
      unfold pending at ht ⊢
      exact ht.sublist ((List.filter_sublist.append_left _).map _)

/-! ### The publishes under way -/

theorem pending_request (hb : b.Sound) (ticket : Nat) (event : Event) :
    (b.request ticket event).pending = b.pending ++ [⟨ticket, event⟩] := by
  unfold Bus.request
  split
  · rename_i hg
    simp [pending, Gate.publication?, hg, hb.line hg]
  · simp [pending]

/-- **The publish that is given up leaves, the others stay in their order.** -/
theorem pending_cancel (hb : b.Sound) (ticket : Nat) :
    (b.cancel ticket).2.1.pending = b.pending.filter (·.ticket != ticket) := by
  rcases hb.cancel_cases ticket with ⟨hw, hc⟩ | ⟨wakes, hh, hc⟩ | ⟨wakes, hh, -, hc⟩
  · rw [waiting_eq] at hw
    rw [hc, filter_ticket_of_notMem hw]
  · obtain ⟨p, rfl, hp⟩ := pending_of_holder? hh
    have ht := hb.tickets
    rw [hp, List.map_cons, List.nodup_cons] at ht
    rw [hc, pending_passGate, hp, List.filter_cons_of_neg (by simp), filter_ticket_of_notMem ht.1]
    rfl
  · rw [hc]
    unfold pending
    rw [List.filter_append]
    congr 1
    rw [Gate.holder?_eq_map] at hh
    rcases hp : b.gate.publication? with _ | p
    · rfl
    · rw [hp] at hh
      rw [Option.toList_some, List.filter_cons_of_pos (by simpa using hh)]
      rfl

theorem pending_eq_nil_iff (hb : b.Sound) : b.pending = [] ↔ b.gate = .free := by
  unfold pending
  constructor
  · intro h
    have hg := (List.append_eq_nil_iff.1 h).1
    rcases hgate : b.gate with _ | p | r
    · rfl
    · rw [hgate] at hg
      simp [Gate.publication?] at hg
    · rw [hgate] at hg
      simp [Gate.publication?] at hg
  · intro h
    rw [h, hb.line h]
    rfl

/-- A drive without a delivery leaves all publishes under way. -/
theorem pending_drive_of_none (hb : b.Sound) (h : b.drive.2.1 = none) :
    b.drive.1.pending = b.pending := by
  rcases hr : b.start? with _ | r
  · rw [drive_of_free (start?_eq_none.1 hr)]
  · by_cases hw : b.aheadOf r = []
    · obtain ⟨wakes, hd⟩ := hb.drive_deliver hr hw
      rw [hd] at h
      simp at h
    · rw [pending_of_start? hr, drive_eq_wait hr (hb.nodup_ahead hr) hw, hold_eq]
      rfl

/-- **A drive delivers the first of the publishes under way,** or none. -/
theorem pending_drive_of_some (hb : b.Sound) {done : Nat × Nat} (h : b.drive.2.1 = some done) :
    ∃ p, p.ticket = done.1 ∧ b.pending = p :: b.drive.1.pending := by
  rcases hr : b.start? with _ | r
  · rw [drive_of_free (start?_eq_none.1 hr)] at h
    simp at h
  · by_cases hw : b.aheadOf r = []
    · obtain ⟨wakes, hd⟩ := hb.drive_deliver hr hw
      rw [hd] at h ⊢
      obtain rfl := Option.some.inj h
      refine ⟨r.request, rfl, ?_⟩
      rw [pending_passGate]
      exact pending_of_start? hr
    · rw [drive_eq_wait hr (hb.nodup_ahead hr) hw] at h
      simp at h

theorem stats_drive_of_none (hb : b.Sound) (h : b.drive.2.1 = none) :
    b.drive.1.stats = b.stats := by
  rcases hr : b.start? with _ | r
  · rw [drive_of_free (start?_eq_none.1 hr)]
  · by_cases hw : b.aheadOf r = []
    · obtain ⟨wakes, hd⟩ := hb.drive_deliver hr hw
      rw [hd] at h
      simp at h
    · rw [drive_eq_wait hr (hb.nodup_ahead hr) hw, hold_eq]

/-- A delivery is counted. -/
theorem published_drive_of_some (hb : b.Sound) {done : Nat × Nat} (h : b.drive.2.1 = some done) :
    b.drive.1.stats.published = b.stats.published + 1 := by
  rcases hr : b.start? with _ | r
  · rw [drive_of_free (start?_eq_none.1 hr)] at h
    simp at h
  · by_cases hw : b.aheadOf r = []
    · obtain ⟨wakes, hd⟩ := hb.drive_deliver hr hw
      rw [hd, passGate_eq]
      rfl
    · rw [drive_eq_wait hr (hb.nodup_ahead hr) hw] at h
      simp at h

theorem stats_cancel (hb : b.Sound) (ticket : Nat) : (b.cancel ticket).2.1.stats = b.stats := by
  rw [hb.cancel_eq ticket]

end Sound
end Bus
end StatusRelay
