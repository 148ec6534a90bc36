/-
# A publish that is given up never happened

Giving up a publish frees its slots and passes the gate on, or shortens the line; nothing that a
subscriber or the counters show changes. More than that, a settled session in which a publish is
made and then given up is, from there on, the session without it.

For this two sessions are compared. `Without n b b'` says that the second bus is the first one
without the publish `n`: both are bare the same, and the same other publishes wait. While `n`
waits behind others, the two have the same gate. Once it is at the gate, where it waits at a
queue, both are canonical: the next publish, if there is one, waits in its place at the same
queue.
-/

import StatusRelay.Proofs.Bus.Session
import StatusRelay.Proofs.Bus.Settling

namespace StatusRelay
namespace Bus

/-! ### Operations on what a bus settles from -/

section Operations

variable {b : Bus}

theorem bare_request (b : Bus) (ticket : Nat) (event : Event) :
    (b.request ticket event).bare = b.bare := by
  unfold request
  split <;> rfl

theorem Canonical.request (hc : b.Canonical) (ticket : Nat) (event : Event) :
    (b.request ticket event).Canonical := by
  unfold Bus.request
  split
  · exact canonical_of_ne (by simp)
  · exact hc

theorem Sound.bare_cancel (hb : b.Sound) (ticket : Nat) :
    (b.cancel ticket).2.1.bare = b.bare := by
  rcases hb.cancel_cases ticket with ⟨-, hc⟩ | ⟨wakes, -, hc⟩ | ⟨wakes, -, -, hc⟩
  · rw [hc]
  · rw [hc]
    exact (bare_passGate _).trans (bare_release b)
  · rw [hc]
    rfl

theorem Canonical.cancel (hc : b.Canonical) (hb : b.Sound) (ticket : Nat) :
    (b.cancel ticket).2.1.Canonical := by
  rcases hb.cancel_cases ticket with ⟨-, h⟩ | ⟨wakes, -, h⟩ | ⟨wakes, -, -, h⟩
  · rw [h]
    exact hc
  · rw [h]
    exact canonical_of_ne (gate_passGate_ne _)
  · rw [h]
    exact hc

/-- Giving up a publish in line leaves the gate. -/
theorem Sound.gate_cancel (hb : b.Sound) {ticket : Nat} (h : b.gate.holder? ≠ some ticket) :
    (b.cancel ticket).2.1.gate = b.gate := by
  rcases hb.cancel_cases ticket with ⟨-, hc⟩ | ⟨wakes, hh, -⟩ | ⟨wakes, -, -, hc⟩
  · rw [hc]
  · exact absurd hh h
  · rw [hc]

/-- The answer to a cancellation. -/
theorem Sound.cancel_fst (hb : b.Sound) (ticket : Nat) :
    (b.cancel ticket).1 = decide (ticket ∈ b.waiting) := by
  rcases hb.cancel_cases ticket with ⟨hw, hc⟩ | ⟨wakes, hh, hc⟩ | ⟨wakes, -, hl, hc⟩
  · rw [hc, decide_eq_false hw]
  · rw [hc, decide_eq_true]
    exact List.mem_append_left _ (by simp [hh])
  · rw [hc, decide_eq_true]
    exact List.mem_append_right _ hl

theorem bare_take (b : Bus) (id : Nat) : (b.take id).2.1.bare = (b.bare.take id).2.1 := by
  unfold take
  rw [queue?_bare]
  rcases hq : b.queue? id with _ | q
  · rfl
  · rcases hi : q.items with _ | ⟨e, rest⟩
    · simp only [Option.map_some, hi]
    · simp only [Option.map_some, hi]
      unfold modify bare release
      simp only [List.map_map, Bus.mk.injEq, true_and, and_true]
      refine List.map_congr_left fun q' _ => ?_
      simp only [Function.comp_apply]
      split <;> rfl

/-- Receiving makes room. -/
theorem passes_take {id x : Nat} (h : b.passes x = true) : (b.take id).2.1.passes x = true := by
  have hcap : (b.take id).2.1.capacity = b.capacity := by
    rw [take_eq]
  unfold passes at h ⊢
  rw [hcap]
  rcases queue?_take b id x with hq | ⟨q, e, es, hq, hi, hq'⟩
  · rw [hq]
    exact h
  · rw [hq'] at *
    rw [hq] at h
    rcases hc : b.capacity with _ | c
    · rfl
    · simp only [hc, Queue.hasRoom, hi, List.length_cons, Bool.or_eq_true, decide_eq_true_eq]
        at h ⊢
      exact h.imp_right fun h => by omega

theorem takes_take (id : Nat) : (b.take id).2.1.takes = b.takes := by
  funext x
  have hcap : (b.take id).2.1.capacity = b.capacity := by
    rw [take_eq]
  unfold takes isOpenAt
  rw [hcap]
  rcases queue?_take b id x with hq | ⟨q, e, es, hq, hi, hq'⟩
  · rw [hq]
  · rw [hq', hq]

theorem takes_bare (b : Bus) : b.bare.takes = b.takes := by
  funext x
  unfold takes
  rw [isOpenAt_bare]
  rfl

/-- A queue without a reserved slot is passed as on the bare bus. -/
theorem Sound.passes_bare (hb : b.Sound) {id : Nat} (h : id ∉ b.slots) :
    b.bare.passes id = b.passes id := by
  have hcap : b.bare.capacity = b.capacity := rfl
  unfold passes
  rw [queue?_bare, hcap]
  rcases hq : b.queue? id with _ | q
  · rfl
  · obtain ⟨hmem, rfl⟩ := queue?_eq_some hq
    have hres := hb.slots q hmem
    rw [if_neg h] at hres
    rw [Option.map_some, ← hres]

/-- How far a publish comes depends on the queues ahead of it. -/
theorem reach_congr {b b' : Bus} {r : Reservation}
    (hpasses : ∀ id ∈ r.ahead, b.passes id = b'.passes id) (htakes : b.takes = b'.takes) :
    b.reach r = b'.reach r := by
  have hsame : ∀ l : List Nat, (∀ id ∈ l, b.passes id = b'.passes id) →
      l.takeWhile b.passes = l.takeWhile b'.passes ∧
        l.dropWhile b.passes = l.dropWhile b'.passes := by
    intro l
    induction l with
    | nil => exact fun _ => ⟨rfl, rfl⟩
    | cons id l ih =>
      intro h
      obtain ⟨ht, hd⟩ := ih fun x hx => h x (List.mem_cons_of_mem _ hx)
      simp only [List.takeWhile_cons, List.dropWhile_cons, h id List.mem_cons_self, ht, hd,
        and_self]
  obtain ⟨ht, hd⟩ := hsame r.ahead hpasses
  unfold reach aheadOf heldBy goneBy
  rw [hd, ht, htakes]

/-- **Where more can be passed, a publish comes as far from its beginning as from where it
was.** -/
theorem reach_reach {b b' : Bus} {r : Reservation}
    (hpasses : ∀ id, b.passes id = true → b'.passes id = true) (htakes : b.takes = b'.takes) :
    b'.reach (b.reach r) = b'.reach r := by
  have hall : ∀ id ∈ r.ahead.takeWhile b.passes, b'.passes id = true := fun id hid =>
    hpasses id (List.mem_takeWhile_imp hid)
  have hsplit := List.takeWhile_append_dropWhile (p := b.passes) (l := r.ahead)
  have ht : r.ahead.takeWhile b'.passes =
      r.ahead.takeWhile b.passes ++ (r.ahead.dropWhile b.passes).takeWhile b'.passes := by
    conv_lhs => rw [← hsplit]
    exact List.takeWhile_append_of_pos hall
  have hd : r.ahead.dropWhile b'.passes = (r.ahead.dropWhile b.passes).dropWhile b'.passes := by
    conv_lhs => rw [← hsplit]
    exact List.dropWhile_append_of_pos hall
  unfold reach aheadOf heldBy goneBy
  rw [hd, ht, htakes]
  simp only [List.filter_append, List.append_assoc]

/-- **Receiving keeps a bus canonical:** the queues that a publish has passed could be passed
again. -/
theorem Canonical.take (hc : b.Canonical) (hb : b.Sound) (id : Nat) :
    (b.take id).2.1.Canonical := by
  intro r hg
  have hg' : b.gate = .reserving r := by
    rw [take_eq] at hg
    exact hg
  have hids : (b.take id).2.1.begun r.request = b.begun r.request := by
    unfold begun
    rw [ids_take]
  have hslots : (b.take id).2.1.slots = r.held := slots_reserving hg
  have hdisj : ∀ x ∈ (b.reach r).ahead, x ∉ (b.take id).2.1.slots := by
    intro x hx hm
    rw [hslots] at hm
    have hnd := (hb.gate r hg').nodup
    unfold Reservation.targets at hnd
    rw [List.append_assoc] at hnd
    exact (List.nodup_append.1 hnd).2.2 x hm x
      (List.mem_append_right _ ((List.dropWhile_subset _) hx)) rfl
  calc (b.take id).2.1.reach r
      = (b.take id).2.1.reach (b.reach r) :=
        (reach_reach (fun _ => passes_take) (takes_take id).symm).symm
    _ = (b.take id).2.1.bare.reach (b.reach r) :=
        reach_congr (fun x hx => ((hb.take id).passes_bare (hdisj x hx)).symm)
          (takes_bare _).symm
    _ = (b.take id).2.1.bare.reach (b.bare.reach (b.begun r.request)) := by rw [hc r hg']
    _ = (b.take id).2.1.bare.reach (b.begun r.request) := by
        rw [bare_take]
        exact reach_reach (fun _ => passes_take) (takes_take id).symm
    _ = (b.take id).2.1.bare.reach ((b.take id).2.1.begun r.request) := by rw [hids]

end Operations

/-! ### With and without a publish -/

/-- The second bus is the first one without a publish. -/
structure Without (n : Nat) (b b' : Bus) : Prop where
  sound : b.Sound
  sound' : b'.Sound
  bare : b.bare = b'.bare
  pending : b'.pending = b.pending.filter (·.ticket != n)
  alike : b.gate = b'.gate ∨ (b.Canonical ∧ b'.Canonical)

theorem Sound.start?_of_pending {b : Bus} (hb : b.Sound) {p : Publication} {l : List Publication}
    (h : b.pending = p :: l) : ∃ r, b.start? = some r ∧ r.request = p ∧ b.line = l := by
  rcases hr : b.start? with _ | r
  · rw [hb.pending_eq_nil_iff.2 (start?_eq_none.1 hr)] at h
    simp at h
  · obtain ⟨hrequest, hline⟩ := List.cons.inj ((pending_of_start? hr).symm.trans h)
    exact ⟨r, rfl, hrequest, hline⟩

namespace Without

variable {n : Nat} {b b' : Bus}

/-- A publish that is first on both buses comes equally far. -/
theorem reach_eq (h : Without n b b') {r r' : Reservation} (hr : b.start? = some r)
    (hr' : b'.start? = some r') (hrequest : r.request = r'.request) :
    b.reach r = b'.reach r' := by
  have hids : b.ids = b'.ids := by
    rw [← ids_bare, h.bare, ids_bare]
  rcases h.alike with hgate | ⟨hc, hc'⟩
  · have hqueues := h.sound.queues_eq h.sound' h.bare hgate
    have hcap : b.bare.capacity = b'.bare.capacity := congrArg Bus.capacity h.bare
    change b.capacity = b'.capacity at hcap
    have hsame : r = r' := by
      unfold start? at hr hr'
      rw [hgate, hids] at hr
      exact Option.some.inj (hr.symm.trans hr')
    rw [hsame]
    apply reach_congr
    · intro id _
      unfold passes queue?
      rw [hqueues, hcap]
    · funext id
      unfold takes isOpenAt queue?
      rw [hqueues, hcap]
  · rw [hc.reach_eq h.sound hr, hc'.reach_eq h.sound' hr', h.bare, hrequest]
    unfold begun
    rw [hids]

/-- **The publish at the gate moves on alike** where it is not the one left out. -/
theorem drive (h : Without n b b') {r : Reservation} (hr : b.start? = some r)
    (hn : r.request.ticket ≠ n) :
    b.drive.2.1 = b'.drive.2.1 ∧ Without n b.drive.1 b'.drive.1 := by
  have hp := pending_of_start? hr
  have hp' : b'.pending = r.request :: b.line.filter (·.ticket != n) := by
    rw [h.pending, hp, List.filter_cons_of_pos (by simpa using hn)]
  obtain ⟨r', hr', hrequest, hline⟩ := h.sound'.start?_of_pending hp'
  have hreach := h.reach_eq hr hr' hrequest.symm
  have hahead : b.aheadOf r = b'.aheadOf r' := congrArg Reservation.ahead hreach
  by_cases hw : b.aheadOf r = []
  · obtain ⟨hd, hbare, hpend, hg⟩ := h.sound.deliver hr hw
    obtain ⟨hd', hbare', hpend', hg'⟩ := h.sound'.deliver hr' (hahead ▸ hw)
    refine ⟨by rw [hd, hd', hreach, hrequest, h.bare], h.sound.drive, h.sound'.drive, ?_, ?_,
      Or.inr ⟨canonical_of_ne hg, canonical_of_ne hg'⟩⟩
    · rw [hbare, hbare', hreach, h.bare]
    · rw [hpend, hpend', hline]
  · obtain ⟨hd, hbare, hg, -⟩ := h.sound.wait hr hw
    obtain ⟨hd', hbare', hg', -⟩ := h.sound'.wait hr' (hahead ▸ hw)
    refine ⟨by rw [hd, hd'], h.sound.drive, h.sound'.drive, ?_, ?_, Or.inl ?_⟩
    · rw [hbare, hbare', h.bare]
    · rw [h.sound.pending_drive_of_none hd, h.sound'.pending_drive_of_none hd', h.pending]
    · rw [hg, hg', hreach]

/-- The publish left out is at the gate of a canonical bus, if it is at the gate at all. -/
theorem canonical (h : Without n b b') {r : Reservation} (hr : b.start? = some r)
    (hn : r.request.ticket = n) : b.Canonical ∧ b'.Canonical := by
  refine h.alike.resolve_left fun hgate => ?_
  have hmem : r.request ∈ b'.pending := by
    unfold Bus.pending
    rw [← hgate, publication?_of_start? hr]
    exact List.mem_cons_self
  rw [h.pending] at hmem
  have := (List.mem_filter.1 hmem).2
  simp [hn] at this

/-- **Both buses settle alike** while the publish left out waits. -/
theorem settle (h : Without n b b') (hn : n ∈ b.settle.1.waiting) :
    b.settle.2 = b'.settle.2 ∧ Without n b.settle.1 b'.settle.1 := by
  have hb := h.sound
  induction b, hb using settle_induction generalizing b' with
  | none b hb hd =>
    rcases hr : b.start? with _ | r
    · rw [settle_of_free (start?_eq_none.1 hr), waiting_eq,
        hb.pending_eq_nil_iff.2 (start?_eq_none.1 hr)] at hn
      simp at hn
    · by_cases hrn : r.request.ticket = n
      · obtain ⟨hc, hc'⟩ := h.canonical hr hrn
        have hfull : b.isFull = true := by
          by_contra hroom
          have hw := (hc.aheadOf_eq_nil_iff hb hr).2 (Bool.not_eq_true _ ▸ hroom)
          rw [(hb.deliver hr hw).1] at hd
          simp at hd
        obtain ⟨hdone, hbare, hpend, hcs⟩ := hc.settle_of_full hb hfull
        obtain ⟨hdone', hbare', hpend', hcs'⟩ :=
          hc'.settle_of_full h.sound' (isFull_congr h.bare ▸ hfull)
        refine ⟨hdone.trans hdone'.symm, hb.settle, h.sound'.settle, ?_, ?_, Or.inr ⟨hcs, hcs'⟩⟩
        · rw [hbare, hbare', h.bare]
        · rw [hpend, hpend', h.pending]
      · obtain ⟨heq, hdrive⟩ := h.drive hr hrn
        rw [settle_of_none hd, settle_of_none (heq ▸ hd)]
        exact ⟨rfl, hdrive⟩
  | some b hb done hd ih =>
    rcases hr : b.start? with _ | r
    · rw [drive_of_free (start?_eq_none.1 hr)] at hd
      simp at hd
    · rw [settle_of_some hb hd] at hn ⊢
      by_cases hrn : r.request.ticket = n
      · -- It would be delivered now, and could not wait later.
        obtain ⟨p, -, hp⟩ := hb.pending_drive_of_some hd
        have ht := hb.tickets
        rw [hp] at ht
        have hpr := (List.cons.inj (hp.symm.trans (pending_of_start? hr))).1
        have hmem : n ∈ b.drive.1.waiting := by
          rw [hb.drive.waiting_settle]
          exact List.mem_append_right _ hn
        rw [waiting_eq, ← hrn, ← hpr] at hmem
        exact absurd hmem (List.nodup_cons.1 ht).1
      · obtain ⟨heq, hdrive⟩ := h.drive hr hrn
        rw [settle_of_some h.sound' (heq ▸ hd)]
        obtain ⟨hdone, hsettle⟩ := ih hdrive hn
        exact ⟨by rw [hdone], hsettle⟩

end Without

/-! ### Sessions with and without a publish -/

/-- Operations between the making and the giving up of a publish: no subscription comes or goes,
the bus is not let go of, and the ticket is not used for another publish. -/
def Op.spares (n : Nat) : Op → Bool
  | .publish ticket _ => ticket != n
  | .subscribe => false
  | .unsubscribe _ => false
  | .close => false
  | _ => true

/-- A reply, what it says of the counters apart. -/
def Reply.plain : Reply → Reply
  | .counted _ => .counted none
  | reply => reply

theorem pending_take (b : Bus) (id : Nat) : (b.take id).2.1.pending = b.pending := by
  rw [take_eq]
  rfl

/-- Only a publish puts a ticket into use, and only letting go of the bus closes it. -/
theorem perform_of_spares {b : Bus} (hb : b.Sound) {op : Op} {n : Nat} (hop : op.spares n = true) :
    (b.perform op).2.isOpen = b.isOpen ∧ (n ∈ (b.perform op).2.waiting → n ∈ b.waiting) := by
  cases op with
  | publish ticket event =>
    simp only [perform]
    split
    · refine ⟨isOpen_request b ticket event, fun hn => ?_⟩
      · rw [waiting_eq, hb.pending_request, List.map_append, List.mem_append, ← waiting_eq] at hn
        refine hn.resolve_right fun hm => ?_
        simp only [Op.spares, bne_iff_ne] at hop
        exact hop (List.mem_singleton.1 hm).symm
    · exact ⟨rfl, id⟩
  | poll ticket =>
    simp only [perform]
    split
    · rcases hd : b.drive.2.1 with _ | done
      · refine ⟨?_, fun hn => ?_⟩
        · have := hb.isOpen_settle
          rwa [settle_of_none hd] at this
        · rwa [waiting_eq, hb.pending_drive_of_none hd, ← waiting_eq] at hn
      · refine ⟨?_, fun hn => ?_⟩
        · have h := hb.isOpen_settle
          rw [settle_of_some hb hd, hb.drive.isOpen_settle] at h
          exact h
        · obtain ⟨p, -, hp⟩ := hb.pending_drive_of_some hd
          rw [waiting_eq] at hn ⊢
          rw [hp]
          exact List.mem_cons_of_mem _ hn
    · exact ⟨rfl, id⟩
  | cancel ticket =>
    refine ⟨?_, fun hn => ?_⟩
    · have heq := congrArg Bus.isOpen (hb.cancel_eq ticket)
      exact heq
    · change n ∈ (b.cancel ticket).2.1.waiting at hn
      rw [waiting_eq, hb.pending_cancel] at hn
      rw [waiting_eq]
      exact (List.filter_sublist.map _).subset hn
  | subscribe => simp [Op.spares] at hop
  | unsubscribe id => simp [Op.spares] at hop
  | recv id | tryRecv id =>
    simp only [perform]
    split
    · refine ⟨by rw [take_eq], fun hn => ?_⟩
      rwa [waiting_eq, pending_take, ← waiting_eq] at hn
    · exact ⟨rfl, fun hn => hn⟩
  | stats =>
    simp only [perform]
    split <;> exact ⟨rfl, id⟩
  | close => simp [Op.spares] at hop

theorem Still.perform_poll {b : Bus} (hs : b.Still) (hb : b.Sound) (ticket : Nat) :
    b.perform (.poll ticket) = (.polled false none, b) := by
  have hgranted : b.gate.isGranted = false := by
    rcases hs with hg | ⟨r, hg, -⟩
    · rw [hg]
      rfl
    · rw [hg]
      rfl
  simp only [perform, hs.drive hb, hgranted, Option.map_none]
  split <;> rfl

namespace Without

variable {n : Nat} {b b' : Bus}

theorem isOpen_eq (h : Without n b b') : b.isOpen = b'.isOpen := by
  have hbare := congrArg Bus.isOpen h.bare
  exact hbare

theorem mem_waiting (h : Without n b b') {ticket : Nat} (hne : ticket ≠ n) :
    ticket ∈ b'.waiting ↔ ticket ∈ b.waiting := by
  rw [waiting_eq, waiting_eq, h.pending]
  simp only [List.mem_map, List.mem_filter, bne_iff_ne]
  constructor
  · rintro ⟨p, ⟨hp, -⟩, rfl⟩
    exact ⟨p, hp, rfl⟩
  · rintro ⟨p, hp, rfl⟩
    exact ⟨p, ⟨hp, hne⟩, rfl⟩

theorem request (h : Without n b b') {ticket : Nat} (event : Event) (hne : ticket ≠ n)
    (hw : ticket ∉ b.waiting) :
    Without n (b.request ticket event) (b'.request ticket event) where
  sound := h.sound.request event hw
  sound' := h.sound'.request event fun hw' => hw ((h.mem_waiting hne).1 hw')
  bare := by rw [bare_request, bare_request, h.bare]
  pending := by
    rw [h.sound.pending_request, h.sound'.pending_request, h.pending, List.filter_append,
      List.filter_cons_of_pos (by simpa using hne)]
    rfl
  alike := by
    rcases h.alike with hgate | ⟨hc, hc'⟩
    · refine Or.inl ?_
      unfold Bus.request
      rw [hgate]
      split <;> simp_all
    · exact Or.inr ⟨hc.request ticket event, hc'.request ticket event⟩

/-- Another publish is given up. -/
theorem cancel (h : Without n b b') (ticket : Nat) :
    Without n (b.cancel ticket).2.1 (b'.cancel ticket).2.1 where
  sound := h.sound.cancel ticket
  sound' := h.sound'.cancel ticket
  bare := by rw [h.sound.bare_cancel, h.sound'.bare_cancel, h.bare]
  pending := by
    rw [h.sound.pending_cancel, h.sound'.pending_cancel, h.pending, List.filter_filter,
      List.filter_filter]
    exact List.filter_congr fun p _ => Bool.and_comm _ _
  alike := by
    rcases h.alike with hgate | ⟨hc, hc'⟩
    · by_cases hh : b.gate.holder? = some ticket
      · obtain ⟨wakes, hcancel⟩ := h.sound.cancel_holder hh
        obtain ⟨wakes', hcancel'⟩ := h.sound'.cancel_holder (hgate ▸ hh)
        rw [hcancel, hcancel']
        exact Or.inr ⟨canonical_of_ne (gate_passGate_ne _), canonical_of_ne (gate_passGate_ne _)⟩
      · rw [h.sound.gate_cancel hh, h.sound'.gate_cancel (hgate ▸ hh)]
        exact Or.inl hgate
    · exact Or.inr ⟨hc.cancel h.sound ticket, hc'.cancel h.sound' ticket⟩

/-- **Receivers find the same.** -/
theorem take (h : Without n b b') (hopen : b.isOpen = true) {id : Nat}
    (ho : b.isOpenAt id = true) :
    (b.take id).1 = (b'.take id).1 ∧ Without n (b.take id).2.1 (b'.take id).2.1 := by
  have hcontents : b.contents id = b'.contents id := by
    rw [← contents_bare, h.bare, contents_bare]
  refine ⟨?_, h.sound.take id, h.sound'.take id, ?_, ?_, ?_⟩
  · rw [← isSome_contents] at ho
    obtain ⟨es, hes⟩ := Option.isSome_iff_exists.1 ho
    rcases es with _ | ⟨e, es⟩
    · rw [take_of_nil hes, take_of_nil (hcontents ▸ hes)]
      unfold isGone
      rw [← h.isOpen_eq, hopen]
      rfl
    · rw [(take_of_cons hes).1, (take_of_cons (hcontents ▸ hes)).1]
  · rw [bare_take, bare_take, h.bare]
  · rw [pending_take, pending_take, h.pending]
  · rcases h.alike with hgate | ⟨hc, hc'⟩
    · refine Or.inl ?_
      rw [take_eq, take_eq b']
      exact hgate
    · exact Or.inr ⟨hc.take h.sound id, hc'.take h.sound' id⟩

/-- **Every operation between is answered alike,** the counters apart. -/
theorem perform (h : Without n b b') (hs : b.Still) (hs' : b'.Still) (hopen : b.isOpen = true)
    {op : Op} (hop : op.spares n = true) (hn : n ∈ (b.perform op).2.waiting) :
    (b.perform op).1.plain = (b'.perform op).1.plain ∧
      Without n (b.perform op).2 (b'.perform op).2 := by
  have hopen' := h.isOpen_eq
  have hat : ∀ id, b'.isOpenAt id = b.isOpenAt id := fun id => by
    rw [← isOpenAt_bare, ← h.bare, isOpenAt_bare]
  cases op with
  | publish ticket event =>
    have hne : ticket ≠ n := by simpa [Op.spares] using hop
    by_cases hw : b.isOpen ∧ ticket ∉ b.waiting
    · have hw' : b'.isOpen ∧ ticket ∉ b'.waiting := by
        rwa [← hopen', h.mem_waiting hne]
      simp only [Bus.perform, if_pos hw, if_pos hw', true_and]
      exact h.request event hne hw.2
    · have hw' : ¬(b'.isOpen ∧ ticket ∉ b'.waiting) := by
        rwa [← hopen', h.mem_waiting hne]
      simp only [Bus.perform, if_neg hw, if_neg hw', true_and]
      exact h
  | poll ticket =>
    rw [hs.perform_poll h.sound, hs'.perform_poll h.sound']
    exact ⟨rfl, h⟩
  | cancel ticket =>
    have hne : ticket ≠ n := by
      rintro rfl
      change ticket ∈ (b.cancel ticket).2.1.waiting at hn
      rw [waiting_eq, h.sound.pending_cancel] at hn
      obtain ⟨p, hp, rfl⟩ := List.mem_map.1 hn
      simpa using (List.mem_filter.1 hp).2
    refine ⟨?_, h.cancel ticket⟩
    simp only [Bus.perform, h.sound.cancel_fst, h.sound'.cancel_fst, h.mem_waiting hne]
  | subscribe => simp [Op.spares] at hop
  | unsubscribe id => simp [Op.spares] at hop
  | recv id | tryRecv id =>
    simp only [Bus.perform, hat]
    split
    · rename_i ho
      obtain ⟨hreply, htake⟩ := h.take hopen ho
      exact ⟨by rw [hreply], htake⟩
    · exact ⟨rfl, h⟩
  | stats =>
    simp only [Bus.perform, ← hopen']
    split <;> exact ⟨rfl, h⟩
  | close => simp [Op.spares] at hop

/-- A publish is made on one bus and not on the other. -/
theorem start (hb : b.Sound) (event : Event) (hn : n ∉ b.waiting) :
    Without n (b.request n event) b where
  sound := hb.request event hn
  sound' := hb
  bare := bare_request b n event
  pending := by
    rw [waiting_eq] at hn
    rw [hb.pending_request, List.filter_append, List.filter_cons_of_neg (by simp),
      List.filter_nil, List.append_nil, filter_ticket_of_notMem hn]
  alike := by
    unfold Bus.request
    split
    · rename_i hg
      exact Or.inr ⟨canonical_of_ne (by simp), canonical_of_ne (by simp [hg])⟩
    · exact Or.inl rfl

/-- **Once the publish left out is given up, the two buses settle to one.** -/
theorem finish (h : Without n b b') (hs' : b'.Still) :
    (b.cancel n).2.1.settle = (b', []) := by
  have hb := h.sound.cancel n
  have hbare : (b.cancel n).2.1.bare = b'.bare := (h.sound.bare_cancel n).trans h.bare
  have hpending : (b.cancel n).2.1.pending = b'.pending :=
    (h.sound.pending_cancel n).trans h.pending.symm
  have hcanonical : b.Canonical ∧ b'.Canonical → (b.cancel n).2.1.settle = (b', []) :=
    fun ⟨hc, hc'⟩ => (hc.cancel h.sound n).settle_eq hb hs' hc' h.sound' hbare hpending
  by_cases hh : b.gate.holder? = some n
  · obtain ⟨p, hpn, hfirst⟩ := pending_of_holder? hh
    obtain ⟨r, hr, rfl, -⟩ := h.sound.start?_of_pending hfirst
    exact hcanonical (h.canonical hr hpn)
  · rcases h.alike with hgate | hc
    · have hg : (b.cancel n).2.1.gate = b'.gate := (h.sound.gate_cancel hh).trans hgate
      have hline : (b.cancel n).2.1.line = b'.line := by
        unfold Bus.pending at hpending
        rw [hg] at hpending
        exact List.append_cancel_left hpending
      rw [hb.ext h.sound' hbare hg hline]
      exact hs'.settle h.sound'
    · exact hcanonical hc

end Without

/-- One operation in a settled session. -/
theorem runSettled_cons (b : Bus) (op : Op) (ops : List Op) : b.runSettled (op :: ops) =
    (((b.perform op).1, (b.perform op).2.settle.2) ::
        ((b.perform op).2.settle.1.runSettled ops).1,
      ((b.perform op).2.settle.1.runSettled ops).2) := rfl

theorem runSettled_append (b : Bus) (ops ops' : List Op) : b.runSettled (ops ++ ops') =
    ((b.runSettled ops).1 ++ ((b.runSettled ops).2.runSettled ops').1,
      ((b.runSettled ops).2.runSettled ops').2) := by
  induction ops generalizing b with
  | nil => rfl
  | cons op ops ih => rw [List.cons_append, runSettled_cons, ih, runSettled_cons, List.cons_append]

theorem length_runSettled (b : Bus) (ops : List Op) : (b.runSettled ops).1.length = ops.length := by
  induction ops generalizing b with
  | nil => rfl
  | cons op ops ih => rw [runSettled_cons, List.length_cons, ih, List.length_cons]

/-- **A settled session** keeps the bus sound, and leaves no publish that can move. -/
theorem Sound.runSettled {b : Bus} (hb : b.Sound) (hs : b.Still) (ops : List Op) :
    (b.runSettled ops).2.Sound ∧ (b.runSettled ops).2.Still := by
  induction ops generalizing b with
  | nil => exact ⟨hb, hs⟩
  | cons op ops ih => exact ih (hb.perform op).settle (hb.perform op).still_settle

/-- What waits in the end waited all the time. -/
theorem mem_waiting_of_runSettled {b : Bus} (hb : b.Sound) {n : Nat} {ops : List Op}
    (hops : ∀ op ∈ ops, op.spares n = true) (hn : n ∈ (b.runSettled ops).2.waiting) :
    n ∈ b.waiting := by
  induction ops generalizing b with
  | nil => exact hn
  | cons op ops ih =>
    have hsettled := ih (hb.perform op).settle (fun o ho => hops o (List.mem_cons_of_mem _ ho)) hn
    refine (perform_of_spares hb (hops op List.mem_cons_self)).2 ?_
    rw [(hb.perform op).waiting_settle]
    exact List.mem_append_right _ hsettled

/-- **While a publish waits, the two sessions answer alike.** -/
theorem Without.runSettled {n : Nat} {b b' : Bus} (h : Without n b b') (hs : b.Still)
    (hs' : b'.Still) (hopen : b.isOpen = true) {ops : List Op}
    (hops : ∀ op ∈ ops, op.spares n = true) (hn : n ∈ (b.runSettled ops).2.waiting) :
    ((b.runSettled ops).1.map fun r => (r.1.plain, r.2)) =
        ((b'.runSettled ops).1.map fun r => (r.1.plain, r.2)) ∧
      Without n (b.runSettled ops).2 (b'.runSettled ops).2 := by
  induction ops generalizing b b' with
  | nil => exact ⟨rfl, h⟩
  | cons op ops ih =>
    have hop := hops op List.mem_cons_self
    have hrest : ∀ o ∈ ops, o.spares n = true := fun o ho => hops o (List.mem_cons_of_mem _ ho)
    have hb := h.sound.perform op
    have hsettled := mem_waiting_of_runSettled hb.settle hrest hn
    have hperformed : n ∈ (b.perform op).2.waiting := by
      rw [hb.waiting_settle]
      exact List.mem_append_right _ hsettled
    obtain ⟨hreply, hp⟩ := h.perform hs hs' hopen hop hperformed
    obtain ⟨hdone, hp⟩ := hp.settle hsettled
    have hopen' : (b.perform op).2.settle.1.isOpen = true := by
      rw [hb.isOpen_settle, (perform_of_spares h.sound hop).1, hopen]
    obtain ⟨hreplies, hp⟩ := ih hp hb.still_settle (h.sound'.perform op).still_settle hopen' hrest hn
    rw [runSettled_cons, runSettled_cons]
    refine ⟨?_, hp⟩
    rw [List.map_cons, List.map_cons, hreplies, hreply, hdone]

/-! ### Giving up -/

/-- What is seen of queues: numbers, subscriptions and events. -/
def seen (b : Bus) : List (Nat × Bool × List Event) :=
  b.queues.map fun q => (q.id, q.isOpen, q.items)

/-- The free slots of a queue that can hold so many events. -/
def freeSlots (capacity : Nat) (q : Queue) : Nat := capacity - (q.items.length + q.reserved)

/-- Gives up some publishes. -/
def cancelAll (b : Bus) (tickets : List Nat) : Bus :=
  tickets.foldl (fun b ticket => (b.cancel ticket).2.1) b

theorem seen_bare (b : Bus) : b.bare.seen = b.seen := by
  simp [seen, bare, release]

theorem Sound.waiting_cancel {b : Bus} (hb : b.Sound) (ticket : Nat) :
    (b.cancel ticket).2.1.waiting = b.waiting.filter (· != ticket) := by
  rw [waiting_eq, hb.pending_cancel, waiting_eq, List.filter_map]
  rfl

theorem Sound.cancel_eq_of_mem {b : Bus} (hb : b.Sound) {ticket : Nat} (h : ticket ∈ b.waiting) :
    (b.cancel ticket).2.1 = if b.gate.holder? = some ticket then b.release.passGate.1
      else { b with line := b.line.filter (·.ticket != ticket) } := by
  rcases hb.cancel_cases ticket with ⟨hw, -⟩ | ⟨wakes, hh, hc⟩ | ⟨wakes, hh, -, hc⟩
  · exact absurd h hw
  · rw [hc, if_pos hh]
  · rw [hc, if_neg hh]

/-- **Any number of publishes can be given up,** and if that at the gate is among them, no slot
stays reserved. -/
theorem Sound.cancelAll {b : Bus} (hb : b.Sound) {tickets : List Nat}
    (h : ∀ r, b.gate = .reserving r → r.request.ticket ∈ tickets) :
    (b.cancelAll tickets).Sound ∧ (b.cancelAll tickets).bare = b.bare ∧
      ∀ r, (b.cancelAll tickets).gate ≠ .reserving r := by
  induction tickets generalizing b with
  | nil => exact ⟨hb, rfl, fun r hg => by simpa using h r hg⟩
  | cons ticket tickets ih =>
    have hrest : ∀ r, (b.cancel ticket).2.1.gate = .reserving r → r.request.ticket ∈ tickets := by
      intro r hg
      by_cases hh : b.gate.holder? = some ticket
      · obtain ⟨wakes, hc⟩ := hb.cancel_holder hh
        rw [hc] at hg
        exact absurd hg (gate_passGate_ne _ r)
      · rw [hb.gate_cancel hh] at hg
        refine (List.mem_cons.1 (h r hg)).resolve_left fun heq => hh ?_
        rw [hg, ← heq]
        rfl
    obtain ⟨hsound, hbare, hgate⟩ := ih (hb.cancel ticket) hrest
    exact ⟨hsound, hbare.trans (hb.bare_cancel ticket), hgate⟩

/-- **A settled session with a publish that was given up** ends like the one without it, and
answers alike. -/
theorem runSettled_cancel {b : Bus} (hb : b.Sound) (hs : b.Still) {n : Nat} {event : Event}
    {mid : List Op} (hstart : (b.perform (.publish n event)).1 = .done)
    (hmid : ∀ op ∈ mid, op.spares n = true)
    (hwaits : n ∈ (b.runSettled (.publish n event :: mid)).2.waiting) :
    (b.runSettled (.publish n event :: (mid ++ [.cancel n]))).2 = (b.runSettled mid).2 ∧
      ∃ during, during.length = mid.length ∧
        (b.runSettled (.publish n event :: (mid ++ [.cancel n]))).1 =
          (.done, []) :: (during ++ [(.cancelled true, [])]) ∧
        (during.map fun r => (r.1.plain, r.2)) =
          (b.runSettled mid).1.map fun r => (r.1.plain, r.2) := by
  have haccepted : b.isOpen ∧ n ∉ b.waiting := by
    by_contra hno
    simp only [perform, if_neg hno] at hstart
    simp at hstart
  have hperform : b.perform (.publish n event) = (.done, b.request n event) := if_pos haccepted
  have hr : (b.request n event).Sound := hb.request event haccepted.2
  rw [runSettled_cons, hperform] at hwaits
  have hfirst := mem_waiting_of_runSettled hr.settle hmid hwaits
  obtain ⟨hdone, hwithout⟩ := (Without.start hb event haccepted.2).settle hfirst
  rw [hs.settle hb] at hdone hwithout
  have hopen : (b.request n event).settle.1.isOpen = true := by
    rw [hr.isOpen_settle, isOpen_request]
    exact haccepted.1
  obtain ⟨hreplies, hwithout⟩ := hwithout.runSettled hr.still_settle hs hopen hmid hwaits
  have hfinish := hwithout.finish (hb.runSettled hs mid).2
  have hcancel : ((b.request n event).settle.1.runSettled mid).2.runSettled [.cancel n] =
      ([(.cancelled true, [])], (b.runSettled mid).2) := by
    rw [runSettled_cons]
    simp only [perform, hfinish, hwithout.sound.cancel_fst, decide_eq_true hwaits]
    rfl
  rw [runSettled_cons, hperform, runSettled_append, hcancel, hdone]
  exact ⟨rfl, _, length_runSettled _ mid, rfl, hreplies⟩

/-- **A publish that is given up never happened.** For any capacity:

* At any moment, to give up a publish that is under way changes nothing that is seen of the
  queues, no counter, and no other publish. If it is at the gate, all slots become free and the
  gate is passed on; if it is in line, it leaves the line.
* At any moment, however many publishes were given up before, the free slots of a queue are those
  without an event, but for one that the publish at the gate may have reserved. If that is given
  up too, with any others, the free slots are those without an event.
* A settled session in which a publish is made and given up while it waits, and meanwhile no
  subscription comes or goes and the bus is not let go of, answers like the session without it:
  meanwhile up to the counters, and in everything afterwards. -/
theorem cancelled_never_happened (capacity : Option Nat) :
    (∀ ops n, let b := (Bus.new capacity).run ops
      n ∈ b.waiting →
        (b.cancel n).1 = true ∧
        (b.cancel n).2.1.seen = b.seen ∧
        (b.cancel n).2.1.stats = b.stats ∧
        (b.cancel n).2.1.waiting = b.waiting.filter (· != n) ∧
        (b.cancel n).2.1 = if b.gate.holder? = some n then b.release.passGate.1
          else { b with line := b.line.filter (·.ticket != n) }) ∧
    (∀ ops, let b := (Bus.new capacity).run ops
      (∀ c, b.capacity = some c → ∀ q ∈ b.queues,
        freeSlots c q = c - q.items.length - if q.id ∈ b.slots then 1 else 0) ∧
      ∀ tickets, (∀ ticket, b.gate.holder? = some ticket → ticket ∈ tickets) →
        (b.cancelAll tickets).seen = b.seen ∧
        ∀ c, b.capacity = some c → ∀ q ∈ (b.cancelAll tickets).queues,
          freeSlots c q = c - q.items.length) ∧
    (∀ pre mid post n event,
      let b := ((Bus.new capacity).runSettled pre).2
      let made := Op.publish n event :: (mid ++ [.cancel n])
      (b.perform (.publish n event)).1 = .done →
      (∀ op ∈ mid, op.spares n = true) →
      n ∈ (b.runSettled (.publish n event :: mid)).2.waiting →
        ((Bus.new capacity).runSettled (pre ++ made ++ post)).2 =
          ((Bus.new capacity).runSettled (pre ++ mid ++ post)).2 ∧
        ∃ before during during' after,
          ((Bus.new capacity).runSettled (pre ++ made ++ post)).1 =
            before ++ ((.done, []) :: (during ++ [(.cancelled true, [])])) ++ after ∧
          ((Bus.new capacity).runSettled (pre ++ mid ++ post)).1 = before ++ during' ++ after ∧
          before.length = pre.length ∧ during.length = mid.length ∧ after.length = post.length ∧
          (during.map fun r => (r.1.plain, r.2)) = during'.map fun r => (r.1.plain, r.2)) := by
  have hnew := Sound.new capacity
  refine ⟨?_, ?_, ?_⟩
  · intro ops n b hn
    have hb : b.Sound := hnew.run ops
    refine ⟨?_, ?_, ?_, hb.waiting_cancel n, hb.cancel_eq_of_mem hn⟩
    · rw [hb.cancel_fst, decide_eq_true hn]
    · rw [← seen_bare, hb.bare_cancel, seen_bare]
    · rw [hb.cancel_eq]
  · intro ops b
    have hb : b.Sound := hnew.run ops
    refine ⟨fun c _ q hq => ?_, fun tickets hgate => ?_⟩
    · unfold freeSlots
      rw [hb.slots q hq, Nat.sub_add_eq]
    · have hin : ∀ r, b.gate = .reserving r → r.request.ticket ∈ tickets := fun r hg =>
        hgate _ (by rw [hg]; rfl)
      obtain ⟨hsound, hbare, hfree⟩ := hb.cancelAll hin
      refine ⟨?_, fun c _ q hq => ?_⟩
      · rw [← seen_bare, hbare, seen_bare]
      · have hres := hsound.slots q hq
        rw [slots_eq_nil hfree, if_neg (by simp)] at hres
        unfold freeSlots
        rw [hres, Nat.add_zero]
  · intro pre mid post n event b made hstart hmid hwaits
    obtain ⟨hb, hs⟩ := hnew.runSettled (Or.inl rfl) pre
    obtain ⟨hsame, during, hlen, hreplies, hplain⟩ := runSettled_cancel hb hs hstart hmid hwaits
    simp only [runSettled_append]
    refine ⟨?_, ((Bus.new capacity).runSettled pre).1, during, (b.runSettled mid).1,
      ((b.runSettled mid).2.runSettled post).1, ?_, rfl, length_runSettled _ _, hlen,
      length_runSettled _ _, hplain⟩
    · change ((b.runSettled made).2.runSettled post).2 = _
      rw [hsame]
    · change (_ ++ (b.runSettled made).1) ++ ((b.runSettled made).2.runSettled post).1 = _
      rw [hsame, hreplies]

end Bus
end StatusRelay
