/-
# What comes to one queue

Whoever holds a subscription sees of the bus its queue, and that the bus has gone. Nothing that
others do to the bus takes an event out of the queue or puts one in between: it grows at its end,
or stays as it is. And whenever it grows, or the bus goes, its receiver is among those whom the
operation names.

| operation | the queue | its receiver |
| --- | --- | --- |
| `request`, `subscribe?`, a `drive` that waits | as before | |
| a `drive` that delivers | one event more, if the publish holds it | named then |
| `cancel`, `close` | as before | named if the bus goes |
| `take`, `drain`, `unsubscribe` of another queue | as before | |

A publish passes over queues without a subscription only, and these do not come back: `Orderly` says
so of the publish at the gate. So a queue whose subscription exists is never removed.
-/

import StatusRelay.Proofs.Bus.Contents

namespace StatusRelay
namespace Bus

variable {b b' : Bus} {id : Nat}

/-- **Queues are numbered in turn,** and a publish has passed over none with a subscription. -/
structure Orderly (b : Bus) : Prop where
  registered : ∀ x ∈ b.ids, x < b.nextId
  visited : ∀ r, b.gate = .reserving r → ∀ x ∈ r.gone ++ r.ahead, x < b.nextId
  gone : ∀ r, b.gate = .reserving r → ∀ x ∈ r.gone, b.isOpenAt x = false

/-- **The queue of a subscription grows at its end, or stays as it is.** If it grows, or if the bus
goes, its receiver is named. -/
def Feeds (id : Nat) (b b' : Bus) (wakes : List Wake) : Prop :=
  ∃ more, b'.contents id = (b.contents id).map (· ++ more) ∧
    (.receiver id ∈ wakes ∨ more = [] ∧ (b'.isGone = true → b.isGone = true))

theorem isOpenAt_congr (h : b'.contents id = b.contents id) : b'.isOpenAt id = b.isOpenAt id := by
  rw [← isSome_contents, ← isSome_contents, h]

theorem isOpenAt_of_grows {more : List Event}
    (h : b'.contents id = (b.contents id).map (· ++ more)) : b'.isOpenAt id = b.isOpenAt id := by
  rw [← isSome_contents, ← isSome_contents, h, Option.isSome_map]

/-- An operation that leaves the queue as it is. -/
theorem Feeds.of_contents {wakes : List Wake} (hcontents : b'.contents id = b.contents id)
    (hgone : b'.isGone = true → .receiver id ∈ wakes ∨ b.isGone = true) :
    Feeds id b b' wakes := by
  refine ⟨[], by simp [hcontents], ?_⟩
  by_cases hnamed : Wake.receiver id ∈ wakes
  · exact Or.inl hnamed
  · exact Or.inr ⟨rfl, fun hg => (hgone hg).resolve_left hnamed⟩

/-- Once the bus has gone, every receiver is named. -/
theorem mem_farewell (hopen : b.isOpenAt id = true) (hg : b.isGone = true) :
    Wake.receiver id ∈ b.farewell := by
  obtain ⟨q, hq, rfl, ho⟩ := exists_queue_of_isOpenAt hopen
  unfold farewell
  rw [if_pos hg]
  exact List.mem_map.2 ⟨q, List.mem_filter.2 ⟨hq, ho⟩, rfl⟩

/-! ### Single queues -/

theorem contents_modify_of_ne {x : Nat} (hx : id ≠ x) {f : Queue → Queue}
    (hf : ∀ q, (f q).id = q.id) : (b.modify x f).contents id = b.contents id := by
  rw [modify_eq_modifyEach, contents_modifyEach hf]
  unfold contents
  rcases hq : b.queue? id with _ | q
  · rfl
  · rw [← (queue?_eq_some hq).2] at hx
    simp [hx]

/-- Slots that become free are not seen. -/
theorem contents_foldl_freeSlot (b : Bus) (held : List Nat) :
    (held.foldl (fun b id => b.modify id fun q => { q with reserved := q.reserved - 1 })
      b).contents = b.contents := by
  induction held generalizing b with
  | nil => rfl
  | cons x held ih =>
    rw [List.foldl_cons, ih, modify_eq_modifyEach]
    exact contents_modifyEach_of_view (f := freeSlot) (fun _ => rfl) (fun _ => rfl) (fun _ => rfl) _

theorem contents_fill (b : Bus) (event : Event) (x : Nat) : (b.fill event x).contents id =
    (b.contents id).map (· ++ if x = id then [event] else []) := by
  change (b.modify x (fillSlot event)).contents id = _
  by_cases hx : x = id
  · subst hx
    rw [modify_eq_modifyEach, contents_modifyEach (f := fillSlot event) fun _ => rfl, if_pos rfl]
    unfold contents
    rcases hq : b.queue? x with _ | q
    · rfl
    · obtain ⟨-, rfl⟩ := queue?_eq_some hq
      rcases ho : q.isOpen with _ | _ <;> simp [fillSlot, ho]
  · rw [contents_modify_of_ne (f := fillSlot event) (Ne.symm hx) fun _ => rfl, if_neg hx]
    simp

/-- What a delivery brings to a queue. -/
theorem contents_foldl_fill (id : Nat) (b : Bus) (event : Event) (held : List Nat) :
    ∃ more, (held.foldl (fun b id => b.fill event id) b).contents id =
        (b.contents id).map (· ++ more) ∧ (id ∈ held ∨ more = []) := by
  induction held generalizing b with
  | nil => exact ⟨[], by simp, Or.inr rfl⟩
  | cons x held ih =>
    obtain ⟨more, hmore, hheld⟩ := ih (b.fill event x)
    refine ⟨(if x = id then [event] else []) ++ more, ?_, ?_⟩
    · rw [List.foldl_cons, hmore, contents_fill, Option.map_map]
      congr 1
      funext es
      exact List.append_assoc _ _ _
    · by_cases hx : x = id
      · exact Or.inl (hx ▸ List.mem_cons_self)
      · rw [if_neg hx]
        exact hheld.imp (List.mem_cons_of_mem _) (by simp)

/-- **The first phase of a publish is not seen by a subscriber.** Only queues without a subscription
are passed over. -/
theorem reserve_keeps (b : Bus) (p : Publication) (held gone ahead : List Nat) :
    ∃ queues r, b.reserve p held gone ahead = ({ b with queues := queues }, r) ∧
      ({ b with queues := queues } : Bus).contents = b.contents ∧
      ({ b with queues := queues } : Bus).ids = b.ids ∧
      (∀ id ∈ r.ahead, id ∈ ahead) ∧
      ∀ id ∈ r.gone, id ∈ gone ∨ id ∈ ahead ∧ b.isOpenAt id = false := by
  induction ahead generalizing b held gone with
  | nil => exact ⟨b.queues, _, rfl, rfl, rfl, by simp, fun id hid => Or.inl hid⟩
  | cons x ahead ih =>
    rw [reserve_cons]
    split
    · split
      · obtain ⟨queues, r, hres, hcontents, hids, hahead, hgone⟩ :=
          ih (b.hold [x]) (held ++ [x]) gone
        have hsame : ({ b.hold [x] with queues := queues } : Bus) =
            { b with queues := queues } := by rw [hold_eq]
        rw [hsame] at hres hcontents hids
        refine ⟨queues, r, hres, hcontents.trans (contents_hold b _), hids.trans (ids_hold b _),
          fun id hid => List.mem_cons_of_mem _ (hahead id hid), fun id hid => ?_⟩
        refine (hgone id hid).imp_right fun ⟨hid, hopen⟩ => ⟨List.mem_cons_of_mem _ hid, ?_⟩
        rwa [isOpenAt_hold] at hopen
      · rename_i htakes
        obtain ⟨queues, r, hres, hcontents, hids, hahead, hgone⟩ := ih b held (gone ++ [x])
        refine ⟨queues, r, hres, hcontents, hids,
          fun id hid => List.mem_cons_of_mem _ (hahead id hid), fun id hid => ?_⟩
        rcases hgone id hid with hid | ⟨hid, hopen⟩
        · refine (List.mem_append.1 hid).imp_right fun hid => ?_
          rw [List.mem_singleton.1 hid]
          refine ⟨List.mem_cons_self, ?_⟩
          simp only [takes, Bool.or_eq_true, not_or, Bool.not_eq_true] at htakes
          exact htakes.2
        · exact Or.inr ⟨List.mem_cons_of_mem _ hid, hopen⟩
    · exact ⟨b.queues, _, rfl, rfl, rfl, fun id hid => hid, fun id hid => Or.inl hid⟩

/-- A queue that is not removed stays as it is. -/
theorem contents_filter (b : Bus) {gone : List Nat} (hid : id ∉ gone) :
    ({ b with queues := b.queues.filter fun q => !gone.contains q.id } : Bus).contents id =
      b.contents id := by
  unfold contents queue?
  rw [List.find?_filter]
  refine congrArg (Option.bind · _) (List.find?_congr fun q _ => ?_)
  by_cases hq : q.id = id
  · simp [hq, hid]
  · simp [hq]

/-- The second phase of a publish names the receiver if it brings something, or the bus goes. -/
theorem complete_feeds (b : Bus) {r : Reservation} (hopen : b.isOpenAt id = true)
    (hr : id ∉ r.gone) : ∃ more,
      (b.complete r).1.contents id = (b.contents id).map (· ++ more) ∧
        (.receiver id ∈ (b.complete r).2.2 ∨ more = [] ∧ (b.complete r).1.isGone ≠ true) := by
  obtain ⟨more, hmore, hheld⟩ := contents_foldl_fill id b r.request.event r.held
  have hkept : id ∉ r.gone ++ r.held.filter fun id => !b.counts id := by
    simp [hr, counts_eq, hopen]
  unfold Bus.complete
  simp only
  generalize r.held.foldl (fun b id => b.fill r.request.event id) b = filled at hmore ⊢
  generalize hgone : (r.gone ++ r.held.filter fun id => !b.counts id) = gone at hkept ⊢
  generalize hafter : ({ filled with
    queues := filled.queues.filter fun q => !gone.contains q.id
    stats := _ } : Bus) = after
  have hcontents : after.passGate.1.contents id = (b.contents id).map (· ++ more) := by
    rw [contents_passGate, ← hmore, ← contents_filter filled hkept, ← hafter]
    rfl
  refine ⟨more, hcontents, ?_⟩
  rcases hheld with hheld | rfl
  · obtain ⟨q, hq, rfl, ho⟩ :=
      exists_queue_of_isOpenAt ((isOpenAt_of_grows hmore).trans hopen)
    refine Or.inl (List.mem_append_left _ (List.mem_append_left _ ?_))
    exact List.mem_map.2 ⟨q, List.mem_filter.2 ⟨hq, by simp [ho, hheld]⟩, rfl⟩
  · by_cases hg : after.passGate.1.isGone = true
    · exact Or.inl (List.mem_append_right _
        (mem_farewell ((isOpenAt_of_grows hcontents).trans hopen) hg))
    · exact Or.inr ⟨rfl, hg⟩

/-! ### Nobody with a subscription is passed over -/

namespace Orderly

theorem new (capacity : Option Nat) : (Bus.new capacity).Orderly :=
  ⟨by simp [ids, Bus.new], by simp [Bus.new], by simp [Bus.new]⟩

/-- A publish that starts has passed over nobody with a subscription. -/
theorem gone_start (hb : b.Orderly) {r : Reservation} (hr : b.start? = some r) :
    ∀ x ∈ r.gone, b.isOpenAt x = false := by
  unfold start? at hr
  split at hr
  · simp at hr
  · obtain rfl := Option.some.inj hr
    simp
  · rename_i r' hg
    obtain rfl := Option.some.inj hr
    exact hb.gone r' hg

theorem visited_start (hb : b.Orderly) {r : Reservation} (hr : b.start? = some r) :
    ∀ x ∈ r.gone ++ r.ahead, x < b.nextId := by
  unfold start? at hr
  split at hr
  · simp at hr
  · obtain rfl := Option.some.inj hr
    exact hb.registered
  · rename_i r' hg
    obtain rfl := Option.some.inj hr
    exact hb.visited r' hg

/-- What keeps the gate, or lets nobody reserve, and subscribes nobody. -/
theorem of_gate (hb : b.Orderly) (hids : ∀ x ∈ b'.ids, x ∈ b.ids) (hnext : b'.nextId = b.nextId)
    (hgate : ∀ r, b'.gate = .reserving r → b.gate = .reserving r)
    (hopen : ∀ x, b.isOpenAt x = false → b'.isOpenAt x = false) : b'.Orderly where
  registered x hx := hnext ▸ hb.registered x (hids x hx)
  visited r hr := hnext ▸ hb.visited r (hgate r hr)
  gone r hr x hx := hopen x (hb.gone r (hgate r hr) x hx)

theorem request (hb : b.Orderly) (ticket : Nat) (event : Event) :
    (b.request ticket event).Orderly := by
  have hsame : (b.request ticket event).queues = b.queues ∧
      (b.request ticket event).nextId = b.nextId := by
    unfold Bus.request
    split <;> exact ⟨rfl, rfl⟩
  refine hb.of_gate (fun x hx => ?_) hsame.2 (fun r hr => gate_request_eq_reserving.1 hr)
    fun x hx => ?_
  · unfold Bus.ids at hx
    rwa [hsame.1] at hx
  · exact (isOpenAt_congr (congrFun (contents_request b ticket event) x)).trans hx

theorem modify (hb : b.Orderly) (x : Nat) {f : Queue → Queue} (hid : ∀ q, (f q).id = q.id)
    (hf : ∀ q, (f q).isOpen = true → q.isOpen = true) : (b.modify x f).Orderly := by
  refine hb.of_gate (fun y hy => ?_) rfl (fun r hr => hr) fun y hy => ?_
  · rw [modify_eq_modifyEach, ids_modifyEach hid] at hy
    exact hy
  · unfold isOpenAt at hy ⊢
    rw [modify_eq_modifyEach, queue?_modifyEach hid]
    rcases hq : b.queue? y with _ | q
    · rfl
    · rw [hq] at hy
      replace hy : q.isOpen = false := hy
      rw [Option.map_some]
      simp only
      split
      · exact Bool.eq_false_iff.2 fun ho => by simp [hf q ho] at hy
      · exact hy

/-- A publish that has got the gate has not passed anybody yet. -/
theorem passGate (h : ∀ x ∈ b.ids, x < b.nextId) : b.passGate.1.Orderly where
  registered x hx := by
    rw [passGate_eq] at hx ⊢
    exact h x hx
  visited r hr := absurd hr (gate_passGate_ne b r)
  gone r hr := absurd hr (gate_passGate_ne b r)

theorem cancel (hb : b.Orderly) (ticket : Nat) : (b.cancel ticket).2.1.Orderly := by
  have hfree : ∀ (held : List Nat) {b : Bus}, b.Orderly →
      (held.foldl (fun b id => b.modify id fun q => { q with reserved := q.reserved - 1 })
        b).Orderly := by
    intro held
    induction held with
    | nil => exact fun hb => hb
    | cons x held ih => exact fun hb => ih (hb.modify (f := freeSlot) x (fun _ => rfl) fun _ h => h)
  unfold Bus.cancel
  simp only
  split
  · split
    · exact passGate (hfree _ hb).registered
    · exact passGate hb.registered
  · split
    · exact hb.of_gate (fun _ h => h) rfl (fun _ h => h) fun _ h => h
    · exact hb

theorem complete (hb : b.Orderly) (r : Reservation) : (b.complete r).1.Orderly := by
  have hfill : ∀ (held : List Nat) {b : Bus}, b.Orderly →
      (held.foldl (fun b id => b.fill r.request.event id) b).Orderly := by
    intro held
    induction held with
    | nil => exact fun hb => hb
    | cons x held ih =>
      exact fun hb => ih (hb.modify (f := fillSlot r.request.event) x (fun _ => rfl) fun _ h => h)
  have hfilled := (hfill r.held hb).registered
  unfold Bus.complete
  refine passGate fun x hx => ?_
  obtain ⟨q, hq, rfl⟩ := List.mem_map.1 hx
  exact hfilled q.id (List.mem_map_of_mem (List.mem_of_mem_filter hq))

theorem drive (hb : b.Orderly) : b.drive.1.Orderly := by
  rcases hr : b.start? with _ | r
  · rw [drive_of_free (start?_eq_none.1 hr)]
    exact hb
  · obtain ⟨queues, r', hres, hcontents, hids, hahead, hgone⟩ :=
      reserve_keeps b r.request r.held r.gone r.ahead
    have hregistered : ∀ x ∈ ({ b with queues := queues } : Bus).ids, x < b.nextId := by
      rw [hids]
      exact hb.registered
    have hvisited := hb.visited_start hr
    rw [drive_of_start? hr, hres]
    simp only
    split
    · exact complete ⟨hregistered, fun r hr => hb.visited r hr, fun r hr x hx =>
        (isOpenAt_congr (congrFun hcontents x)).trans (hb.gone r hr x hx)⟩ r'
    · refine ⟨hregistered, fun r₀ hr₀ x hx => ?_, fun r₀ hr₀ x hx => ?_⟩
      · obtain rfl := Gate.reserving.inj hr₀
        refine hvisited x (List.mem_append.2 ?_)
        rcases List.mem_append.1 hx with hx | hx
        · exact (hgone x hx).imp_right (·.1)
        · exact Or.inr (hahead x hx)
      · obtain rfl := Gate.reserving.inj hr₀
        refine (isOpenAt_congr (congrFun hcontents x)).trans ?_
        exact (hgone x hx).elim (hb.gone_start hr x) (·.2)

theorem subscribe (hb : b.Orderly) {x : Nat} (h : b.subscribe? = some (x, b')) : b'.Orderly := by
  have hids := ids_subscribe h
  obtain ⟨rfl, rfl⟩ := subscribe?_eq h
  refine ⟨fun y hy => ?_, fun r hr y hy => Nat.lt_succ_of_lt (hb.visited r hr y hy),
    fun r hr y hy => ?_⟩
  · rw [hids, List.mem_append, List.mem_singleton] at hy
    rcases hy with hy | rfl
    · exact Nat.lt_succ_of_lt (hb.registered y hy)
    · exact Nat.lt_succ_self _
  · have hlt := hb.visited r hr y (List.mem_append_left _ hy)
    have hclosed := hb.gone r hr y hy
    have hne : b.nextId ≠ y := by omega
    unfold isOpenAt queue? at hclosed ⊢
    rw [List.find?_append]
    simpa [hne] using hclosed

theorem take (hb : b.Orderly) (x : Nat) : (b.take x).2.1.Orderly := by
  unfold Bus.take
  split
  · split
    · rename_i e rest _
      exact hb.modify (f := fun q => { q with items := rest }) x (fun _ => rfl) fun _ h => h
    · exact hb
  · exact hb

theorem drain (hb : b.Orderly) (x : Nat) : (b.drain x).2.1.Orderly := by
  unfold Bus.drain
  split
  · exact hb.modify (f := fun q => { q with items := [] }) x (fun _ => rfl) fun _ h => h
  · exact hb

theorem unsubscribe (hb : b.Orderly) (x : Nat) : (b.unsubscribe x).1.Orderly :=
  hb.modify (f := fun q => { q with isOpen := false, items := [] }) x (fun _ => rfl) (by simp)

theorem close (hb : b.Orderly) : b.close.1.Orderly :=
  hb.of_gate (fun _ h => h) rfl (fun _ h => h) fun _ h => h

end Orderly

/-! ### What the queue of a subscription gets -/

namespace Feeds

theorem request (b : Bus) (ticket : Nat) (event : Event) :
    Feeds id b (b.request ticket event) [] := by
  refine of_contents (by rw [contents_request]) fun hg => ?_
  unfold Bus.request isGone isBusy at hg
  split at hg <;> simp [Gate.holder?] at hg

/-- The slots of a publish that is given up become free. -/
theorem cancel (hopen : b.isOpenAt id = true) (ticket : Nat) :
    Feeds id b (b.cancel ticket).2.1 (b.cancel ticket).2.2 := by
  have hleave : ∀ (b' : Bus) (next : List Wake), b'.contents = b.contents →
      Feeds id b b' (next ++ b'.farewell) := by
    intro b' next hcontents
    have hid := congrFun hcontents id
    refine of_contents hid fun hg => Or.inl (List.mem_append_right _ ?_)
    exact mem_farewell ((isOpenAt_congr hid).trans hopen) hg
  unfold Bus.cancel
  simp only
  split
  · split
    · exact hleave _ _ ((contents_passGate _).trans (contents_foldl_freeSlot b _))
    · exact hleave _ _ (contents_passGate b)
  · split
    · exact hleave _ [] (contents_congr rfl)
    · exact of_contents rfl Or.inr

/-- **A publish that is moved on** brings its event, or waits. -/
theorem drive (hb : b.Orderly) (hopen : b.isOpenAt id = true) :
    Feeds id b b.drive.1 b.drive.2.2 := by
  rcases hr : b.start? with _ | r
  · rw [drive_of_free (start?_eq_none.1 hr)]
    exact of_contents rfl Or.inr
  · obtain ⟨queues, r', hres, hsame, -, -, hpassed⟩ :=
      reserve_keeps b r.request r.held r.gone r.ahead
    have hcontents := congrFun hsame id
    have hkept : id ∉ r'.gone := by
      intro hid
      have hclosed : b.isOpenAt id = false := (hpassed id hid).elim (hb.gone_start hr id) (·.2)
      simp [hopen] at hclosed
    rw [drive_of_start? hr, hres]
    simp only
    split
    · obtain ⟨more, hmore, hnamed⟩ :=
        complete_feeds (r := r') _ ((isOpenAt_congr hcontents).trans hopen) hkept
      rw [hcontents] at hmore
      exact ⟨more, hmore, hnamed.imp_right fun ⟨hnil, hg⟩ => ⟨hnil, (absurd · hg)⟩⟩
    · refine of_contents hcontents fun hg => ?_
      simp [isGone, isBusy, Gate.holder?] at hg

/-- Somebody else subscribes. -/
theorem subscribe (hopen : b.isOpenAt id = true) {x : Nat} (h : b.subscribe? = some (x, b')) :
    Feeds id b b' [] := by
  have hid : id ∈ b.ids := by
    obtain ⟨q, hq, rfl, -⟩ := exists_queue_of_isOpenAt hopen
    exact List.mem_map_of_mem hq
  have hqueue := queue?_subscribe h hid
  obtain ⟨rfl, rfl⟩ := subscribe?_eq h
  exact of_contents (by unfold contents; rw [hqueue]) Or.inr

theorem close (hopen : b.isOpenAt id = true) : Feeds id b b.close.1 b.close.2 :=
  of_contents rfl fun hg => Or.inl (mem_farewell (b := b.close.1) hopen hg)

/-- Who has another subscription does not change this queue. -/
theorem modify {x : Nat} (hx : id ≠ x) {f : Queue → Queue} (hf : ∀ q, (f q).id = q.id)
    (wakes : List Wake) : Feeds id b (b.modify x f) wakes :=
  of_contents (contents_modify_of_ne hx hf) Or.inr

theorem take (b : Bus) {x : Nat} (hx : id ≠ x) : Feeds id b (b.take x).2.1 (b.take x).2.2 := by
  unfold Bus.take
  split
  · split
    · rename_i e rest _
      exact modify (f := fun q => { q with items := rest }) hx (fun _ => rfl) _
    · exact of_contents rfl Or.inr
  · exact of_contents rfl Or.inr

theorem drain (b : Bus) {x : Nat} (hx : id ≠ x) : Feeds id b (b.drain x).2.1 (b.drain x).2.2 := by
  unfold Bus.drain
  split
  · exact modify (f := fun q => { q with items := [] }) hx (fun _ => rfl) _
  · exact of_contents rfl Or.inr

theorem unsubscribe (b : Bus) {x : Nat} (hx : id ≠ x) :
    Feeds id b (b.unsubscribe x).1 (b.unsubscribe x).2 :=
  modify (f := fun q => { q with isOpen := false, items := [] }) hx (fun _ => rfl) _

end Feeds

end Bus
end StatusRelay
