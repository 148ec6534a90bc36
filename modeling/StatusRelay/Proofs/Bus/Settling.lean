/-
# Settling

A bus settles when publishes are driven on until none can move. Where subscriptions neither come
nor go while a publish is inside the gate, its slots say nothing that the queues do not say: sent
back to the gate without them, it would come to the same place. Such a bus is `Canonical`. What
it settles to depends on its `bare` bus, on which nothing is reserved and nobody publishes, and on
the publishes that wait:

| the publish at the gate | settling |
| --- | --- |
| none | changes nothing, `settle_of_free` |
| an open queue is full | it waits there, `settle_of_none` |
| no open queue is full | it is delivered, and the bus settles on, `settle_of_some` |

A canonical bus on which no publish can move is determined by these two, `Still.ext`.
-/

import StatusRelay.Proofs.Bus.Contents

namespace StatusRelay
namespace Bus

/-- A bus without reserved slots and without publishes. -/
def bare (b : Bus) : Bus := { b.release with gate := .free, line := [] }

/-- The reservation of a publish that has just got past the gate. -/
def begun (b : Bus) (p : Publication) : Reservation := ⟨p, b.ids, [], []⟩

/-- How far a publish comes when it is driven on. -/
def reach (b : Bus) (r : Reservation) : Reservation :=
  ⟨r.request, b.aheadOf r, b.heldBy r, b.goneBy r⟩

/-- A publish inside the gate comes as far as it would from its beginning. -/
def Canonical (b : Bus) : Prop :=
  ∀ r, b.gate = .reserving r → b.reach r = b.bare.reach (b.begun r.request)

/-- No publish can move. -/
def Still (b : Bus) : Prop :=
  b.gate = .free ∨ ∃ r, b.gate = .reserving r ∧ b.reach r = r

/-- Whether an open queue is full, reserved slots apart. -/
def isFull (b : Bus) : Bool := b.ids.any fun id => !b.bare.passes id

/-! ### Bare buses -/

theorem bare_passGate (b : Bus) : b.passGate.1.bare = b.bare := by
  unfold passGate
  split <;> rfl

theorem bare_release (b : Bus) : b.release.bare = b.bare := by
  simp [bare, release]

theorem bare_hold (b : Bus) (held : List Nat) : (b.hold held).bare = b.bare := by
  rw [hold_eq]
  unfold bare release
  simp only [List.map_map, Bus.mk.injEq, true_and, and_true]
  refine List.map_congr_left fun q _ => ?_
  simp only [Function.comp_apply]
  split <;> rfl

theorem ids_bare (b : Bus) : b.bare.ids = b.ids := by
  simp [ids, bare, release]

theorem queue?_bare (b : Bus) (id : Nat) :
    b.bare.queue? id = (b.queue? id).map fun q => { q with reserved := 0 } := by
  unfold queue? bare release
  rw [List.find?_map]
  rfl

theorem contents_bare (b : Bus) : b.bare.contents = b.contents := contents_release b

theorem isOpenAt_bare (b : Bus) (id : Nat) : b.bare.isOpenAt id = b.isOpenAt id := by
  rw [← isSome_contents, contents_bare, isSome_contents]

theorem counts_bare (b : Bus) : b.bare.counts = b.counts := by
  funext id
  rw [counts_eq, counts_eq, isOpenAt_bare]
  rfl

theorem isFull_congr {b b' : Bus} (h : b.bare = b'.bare) : b.isFull = b'.isFull := by
  unfold isFull
  rw [← ids_bare b, ← ids_bare b', h]

theorem aheadOf_begun_eq_nil_iff (b : Bus) (p : Publication) :
    b.bare.aheadOf (b.begun p) = [] ↔ b.isFull = false := by
  unfold aheadOf begun isFull
  rw [List.dropWhile_eq_nil_iff, List.any_eq_false]
  simp

namespace Sound

variable {b : Bus}

/-- Without a publish inside the gate nothing is reserved. -/
theorem release_eq (hb : b.Sound) (h : ∀ r, b.gate ≠ .reserving r) : b.release = b := by
  have hq : b.queues.map (fun q => { q with reserved := 0 }) = b.queues := by
    conv_rhs => rw [← List.map_id b.queues]
    refine List.map_congr_left fun q hq => ?_
    have hres := hb.slots q hq
    rw [slots_eq_nil h, if_neg (by simp)] at hres
    rw [← hres]
    rfl
  unfold release
  rw [hq]

/-- **Slots follow from the gate.** -/
theorem queues_eq {b' : Bus} (hb : b.Sound) (hb' : b'.Sound) (hbare : b.bare = b'.bare)
    (hgate : b.gate = b'.gate) : b.queues = b'.queues := by
  have hslots : b.slots = b'.slots := by
    unfold Bus.slots
    rw [hgate]
  have hq : ∀ {b : Bus}, b.Sound → b.queues = b.bare.queues.map fun q =>
      { q with reserved := if q.id ∈ b.slots then 1 else 0 } := by
    intro b hb
    unfold bare release
    rw [List.map_map]
    conv_lhs => rw [← List.map_id b.queues]
    refine List.map_congr_left fun q hq => ?_
    simp only [Function.comp_apply, id_eq]
    rw [← hb.slots q hq]
  rw [hq hb, hq hb', hbare, hslots]

/-- Two buses that are bare the same and have the same gate and line are the same. -/
theorem ext {b' : Bus} (hb : b.Sound) (hb' : b'.Sound) (hbare : b.bare = b'.bare)
    (hgate : b.gate = b'.gate) (hline : b.line = b'.line) : b = b' := by
  have hqueues := hb.queues_eq hb' hbare hgate
  unfold bare release at hbare
  simp only [Bus.mk.injEq, true_and] at hbare
  obtain ⟨hcap, -, hnext, hstats, hopen⟩ := hbare
  cases b
  cases b'
  simp_all

end Sound

/-! ### Where a publish comes to -/

/-- A publish that has just got past the gate comes as far as on the bare bus. -/
theorem Canonical.reach_eq {b : Bus} (hc : b.Canonical) (hb : b.Sound) {r : Reservation}
    (hr : b.start? = some r) : b.reach r = b.bare.reach (b.begun r.request) := by
  by_cases hg : ∃ r, b.gate = .reserving r
  · obtain ⟨r', hg⟩ := hg
    rw [start?_reserving hg] at hr
    obtain rfl := Option.some.inj hr
    exact hc r' hg
  · have hrel := hb.release_eq fun r h => hg ⟨r, h⟩
    have hbegun : r = b.begun r.request := by
      unfold start? at hr
      split at hr
      · simp at hr
      · obtain rfl := Option.some.inj hr
        rfl
      · exact absurd ⟨_, ‹_›⟩ hg
    rw [← hbegun]
    unfold bare
    rw [hrel]
    rfl

/-- A publish that cannot pass the next queue does not move. -/
theorem reach_of_stop {b : Bus} {r : Reservation} {id : Nat} {ahead : List Nat}
    (ha : r.ahead = id :: ahead) (h : b.passes id = false) : b.reach r = r := by
  obtain ⟨request, _, held, gone⟩ := r
  obtain rfl : _ = id :: ahead := ha
  simp [reach, aheadOf, heldBy, goneBy, h]

theorem canonical_of_ne {b : Bus} (h : ∀ r, b.gate ≠ .reserving r) : b.Canonical :=
  fun r hg => absurd hg (h r)

/-- A publish waits exactly at a bus with a full queue. -/
theorem Canonical.aheadOf_eq_nil_iff {b : Bus} (hc : b.Canonical) (hb : b.Sound) {r : Reservation}
    (hr : b.start? = some r) : b.aheadOf r = [] ↔ b.isFull = false := by
  rw [← aheadOf_begun_eq_nil_iff b r.request]
  have h := congrArg Reservation.ahead (hc.reach_eq hb hr)
  exact iff_of_eq (congrArg (· = []) h)

/-! ### One drive -/

section Drive

variable {b : Bus} {r : Reservation}

/-- **A publish that waits** leaves the bus bare as it was, and cannot move again. -/
theorem Sound.wait (hb : b.Sound) (hr : b.start? = some r) (hw : b.aheadOf r ≠ []) :
    b.drive.2.1 = none ∧ b.drive.1.bare = b.bare ∧ b.drive.1.gate = .reserving (b.reach r) ∧
      b.drive.1.reach (b.reach r) = b.reach r := by
  have hd := drive_eq_wait hr (hb.nodup_ahead hr) hw
  generalize hF : (r.ahead.takeWhile b.passes).filter b.takes = F at hd
  -- The queue at which it waits is not one of those that it has passed.
  obtain ⟨id, ahead, ha⟩ := List.exists_cons_of_ne_nil hw
  have hid : b.passes id = false := by
    have := List.head_dropWhile_not b.passes hw
    simp only [aheadOf] at ha
    simpa [ha] using this
  have hout : id ∉ F := by
    rw [← hF]
    intro hm
    have hp := List.mem_takeWhile_imp (List.mem_of_mem_filter hm)
    rw [hid] at hp
    simp at hp
  have hstop : b.drive.1.passes id = false := by
    rw [hd, ← hid]
    exact passes_hold_of_notMem hout
  refine ⟨by rw [hd], ?_, ?_, reach_of_stop (show (b.reach r).ahead = id :: ahead from ha) hstop⟩
  · rw [hd]
    exact bare_hold b F
  · rw [hd]
    rfl

/-- **What a publish that is delivered makes of a bus** depends on the bare bus and on how far the
publish has come. -/
theorem Sound.deliver (hb : b.Sound) (hr : b.start? = some r) (hw : b.aheadOf r = []) :
    b.drive.2.1 = some (r.request.ticket, ((b.reach r).held.filter b.bare.counts).length) ∧
      b.drive.1.bare = (b.bare.deliver (b.reach r)).bare ∧ b.drive.1.pending = b.line ∧
      ∀ r', b.drive.1.gate ≠ .reserving r' := by
  obtain ⟨wakes, hd⟩ := hb.drive_deliver hr hw
  have hheld : b.bare.heldBy (b.reach r) = b.heldBy r := by
    unfold heldBy reach
    simp only [hw, List.takeWhile_nil, List.filter_nil, List.append_nil]
    rfl
  have hremoved : b.bare.removedBy (b.reach r) = b.removedBy r := by
    unfold removedBy
    rw [hheld, counts_bare]
    unfold goneBy reach
    simp only [hw, List.takeWhile_nil, List.filter_nil, List.append_nil]
    rfl
  rw [hd]
  refine ⟨by rw [counts_bare]; rfl, ?_, pending_passGate _, gate_passGate_ne _⟩
  rw [bare_passGate]
  unfold Bus.deliver
  rw [hheld, hremoved, counts_bare]
  generalize b.heldBy r = held
  generalize b.removedBy r = removed
  unfold bare release
  simp only [Bus.mk.injEq, true_and, and_true]
  rw [filter_map_of_id (f := fun q => { q with reserved := 0 }) (fun _ => rfl)
    fun id => !removed.contains id]
  simp only [List.map_map]
  rfl

end Drive

/-! ### Settling -/

theorem settle_of_none {b : Bus} (h : b.drive.2.1 = none) : b.settle = (b.drive.1, []) := by
  unfold settle settleAt
  rcases hd : b.drive with ⟨b', done, wakes⟩
  rw [hd] at h
  obtain rfl : done = none := h
  rfl

theorem settle_of_free {b : Bus} (h : b.gate = .free) : b.settle = (b, []) := by
  have hd := drive_of_free h
  rw [settle_of_none (by rw [hd]), hd]

theorem Sound.length_pending {b : Bus} (hb : b.Sound) (h : b.pending ≠ []) :
    b.pending.length = b.line.length + 1 := by
  have hg : b.gate ≠ .free := fun hg => h (hb.pending_eq_nil_iff.2 hg)
  unfold pending
  rcases hgate : b.gate with _ | p | r
  · exact absurd hgate hg
  · simp [Gate.publication?]
  · simp [Gate.publication?]

/-- **After a delivery the bus settles on:** the number of publishes bounds that of the
deliveries. -/
theorem settle_of_some {b : Bus} (hb : b.Sound) {done : Nat × Nat}
    (h : b.drive.2.1 = some done) :
    b.settle = (b.drive.1.settle.1, done :: b.drive.1.settle.2) := by
  obtain ⟨p, -, hp⟩ := hb.pending_drive_of_some h
  have hb' := hb.drive
  have hlen := hb.length_pending (by simp [hp])
  have hrest : b.drive.1.settleAt b.line.length = b.drive.1.settle := by
    rw [hp, List.length_cons, Nat.add_right_cancel_iff] at hlen
    by_cases hnil : b.drive.1.pending = []
    · rw [settle_of_free (hb'.pending_eq_nil_iff.1 hnil), ← hlen, hnil]
      rfl
    · rw [← hlen, hb'.length_pending hnil]
      rfl
  conv_lhs => unfold settle settleAt
  rcases hd : b.drive with ⟨b', done', wakes⟩
  rw [hd] at h hrest
  obtain rfl : done' = some done := h
  simp only [hrest]

/-- Settling goes by one delivery after the other. -/
theorem settle_induction {motive : ∀ b : Bus, b.Sound → Prop}
    (none : ∀ (b : Bus) (hb : b.Sound), b.drive.2.1 = none → motive b hb)
    (some : ∀ (b : Bus) (hb : b.Sound) (done : Nat × Nat), b.drive.2.1 = some done →
      motive b.drive.1 hb.drive → motive b hb) (b : Bus) (hb : b.Sound) : motive b hb := by
  induction hn : b.pending.length generalizing b hb with
  | zero =>
    refine none b hb ?_
    by_contra hd
    obtain ⟨done, hd⟩ := Option.ne_none_iff_exists'.1 hd
    obtain ⟨p, -, hp⟩ := hb.pending_drive_of_some hd
    simp [hp] at hn
  | succ n ih =>
    rcases hd : b.drive.2.1 with _ | done
    · exact none b hb hd
    · obtain ⟨p, -, hp⟩ := hb.pending_drive_of_some hd
      refine some b hb done hd (ih b.drive.1 hb.drive ?_)
      simpa [hp] using hn

theorem Sound.settle {b : Bus} (hb : b.Sound) : b.settle.1.Sound := by
  induction b, hb using settle_induction with
  | none b hb h =>
    rw [settle_of_none h]
    exact hb.drive
  | some b hb done h ih =>
    rw [settle_of_some hb h]
    exact ih

/-- **Publishes are delivered in the order in which they wait.** -/
theorem Sound.waiting_settle {b : Bus} (hb : b.Sound) :
    b.waiting = b.settle.2.map (·.1) ++ b.settle.1.waiting := by
  induction b, hb using settle_induction with
  | none b hb h =>
    rw [settle_of_none h, waiting_eq, waiting_eq, hb.pending_drive_of_none h]
    rfl
  | some b hb done h ih =>
    obtain ⟨p, hp, hpending⟩ := hb.pending_drive_of_some h
    rw [settle_of_some hb h, waiting_eq, hpending, List.map_cons, ← waiting_eq, ih, hp]
    rfl

theorem Sound.isOpen_settle {b : Bus} (hb : b.Sound) : b.settle.1.isOpen = b.isOpen := by
  have hdrive : ∀ {b : Bus}, b.Sound → b.drive.1.isOpen = b.isOpen := by
    intro b hb
    rcases hr : b.start? with _ | r
    · rw [drive_of_free (start?_eq_none.1 hr)]
    · by_cases hw : b.aheadOf r = []
      · have hbare := congrArg Bus.isOpen (hb.deliver hr hw).2.1
        exact hbare
      · have hbare := congrArg Bus.isOpen (hb.wait hr hw).2.1
        exact hbare
  induction b, hb using settle_induction with
  | none b hb h =>
    rw [settle_of_none h]
    exact hdrive hb
  | some b hb done h ih =>
    rw [settle_of_some hb h]
    exact ih.trans (hdrive hb)

theorem Sound.still_settle {b : Bus} (hb : b.Sound) : b.settle.1.Still := by
  induction b, hb using settle_induction with
  | none b hb h =>
    rw [settle_of_none h]
    rcases hr : b.start? with _ | r
    · have hg := start?_eq_none.1 hr
      rw [drive_of_free hg]
      exact Or.inl hg
    · by_cases hw : b.aheadOf r = []
      · rw [(hb.deliver hr hw).1] at h
        simp at h
      · obtain ⟨-, -, hg, hsame⟩ := hb.wait hr hw
        exact Or.inr ⟨_, hg, hsame⟩
  | some b hb done h ih =>
    rw [settle_of_some hb h]
    exact ih

/-- **Nothing moves while an open queue is full.** -/
theorem Canonical.settle_of_full {b : Bus} (hc : b.Canonical) (hb : b.Sound)
    (hfull : b.isFull = true) : b.settle.2 = [] ∧ b.settle.1.bare = b.bare ∧
      b.settle.1.pending = b.pending ∧ b.settle.1.Canonical := by
  rcases hr : b.start? with _ | r
  · rw [settle_of_free (start?_eq_none.1 hr)]
    exact ⟨rfl, rfl, rfl, hc⟩
  · have hw : b.aheadOf r ≠ [] := fun h => by
      rw [(hc.aheadOf_eq_nil_iff hb hr).1 h] at hfull
      simp at hfull
    obtain ⟨hnone, hbare, hgate, hsame⟩ := hb.wait hr hw
    have hids : b.drive.1.ids = b.ids := by
      rw [← ids_bare, hbare, ids_bare]
    rw [settle_of_none hnone]
    refine ⟨rfl, hbare, hb.pending_drive_of_none hnone, fun r' hg => ?_⟩
    obtain rfl := Gate.reserving.inj (hgate.symm.trans hg)
    rw [hsame, hbare, hc.reach_eq hb hr]
    unfold begun
    rw [hids]
    rfl

/-- A drive changes nothing where no publish can move. -/
theorem Still.drive {b : Bus} (hs : b.Still) (hb : b.Sound) : b.drive = (b, none, []) := by
  rcases hs with hg | ⟨r, hg, hreach⟩
  · exact drive_of_free hg
  · have hr := start?_reserving hg
    have hahead : b.aheadOf r = r.ahead := congrArg Reservation.ahead hreach
    have hheld : b.heldBy r = r.held := congrArg Reservation.held hreach
    have hd := drive_eq_wait hr (hb.nodup_ahead hr) (hahead ▸ (hb.gate r hg).waits)
    have hnil : (r.ahead.takeWhile b.passes).filter b.takes = [] := by
      unfold heldBy at hheld
      simpa using hheld
    rw [hnil, hold_nil] at hd
    rw [hd]
    refine Prod.ext ?_ rfl
    change ({ b with gate := .reserving (b.reach r) } : Bus) = b
    rw [hreach, ← hg]

theorem Still.settle {b : Bus} (hs : b.Still) (hb : b.Sound) : b.settle = (b, []) := by
  have hd := hs.drive hb
  rw [settle_of_none (by rw [hd]), hd]

/-- A publish that cannot move waits at a full queue. -/
theorem Still.isFull {b : Bus} (hs : b.Still) (hc : b.Canonical) (hb : b.Sound)
    (hp : b.pending ≠ []) : b.isFull = true := by
  rcases hs with hg | ⟨r, hg, hreach⟩
  · exact absurd (hb.pending_eq_nil_iff.2 hg) hp
  · have hahead : b.aheadOf r = r.ahead := congrArg Reservation.ahead hreach
    by_contra hroom
    have hnil := (hc.aheadOf_eq_nil_iff hb (start?_reserving hg)).2 (Bool.not_eq_true _ ▸ hroom)
    exact (hb.gate r hg).waits (hahead ▸ hnil)

/-- **A bus on which nothing can move is determined** by its bare bus and by the publishes that
wait. -/
theorem Still.ext {b b' : Bus} (hs : b.Still) (hs' : b'.Still) (hc : b.Canonical)
    (hc' : b'.Canonical) (hb : b.Sound) (hb' : b'.Sound) (hbare : b.bare = b'.bare)
    (hpending : b.pending = b'.pending) : b = b' := by
  rcases hs with hg | ⟨r, hg, hreach⟩
  · have hnil := hb'.pending_eq_nil_iff.1 (hpending ▸ hb.pending_eq_nil_iff.2 hg)
    exact hb.ext hb' hbare (hg.trans hnil.symm) ((hb.line hg).trans (hb'.line hnil).symm)
  · rcases hs' with hg' | ⟨r', hg', hreach'⟩
    · rw [hb'.pending_eq_nil_iff.2 hg', hb.pending_eq_nil_iff, hg] at hpending
      simp at hpending
    · have hp := hpending
      rw [pending_of_start? (start?_reserving hg), pending_of_start? (start?_reserving hg')] at hp
      obtain ⟨hrequest, hline⟩ := List.cons.inj hp
      have hids : b.ids = b'.ids := by
        rw [← ids_bare, hbare, ids_bare]
      have hr : r = r' := by
        rw [← hreach, ← hreach', hc r hg, hc' r' hg', hbare, hrequest]
        unfold begun
        rw [hids]
      exact hb.ext hb' hbare (by rw [hg, hg', hr]) hline

/-- **A canonical bus settles to the one on which nothing can move** that is bare the same and has
the same publishes, if there is one. -/
theorem Canonical.settle_eq {b b' : Bus} (hc : b.Canonical) (hb : b.Sound) (hs' : b'.Still)
    (hc' : b'.Canonical) (hb' : b'.Sound) (hbare : b.bare = b'.bare)
    (hpending : b.pending = b'.pending) : b.settle = (b', []) := by
  by_cases hnil : b'.pending = []
  · have hg := hb.pending_eq_nil_iff.1 (hpending.trans hnil)
    rw [settle_of_free hg, Still.ext (Or.inl hg) hs' hc hc' hb hb' hbare hpending]
  · have hfull := isFull_congr hbare ▸ hs'.isFull hc' hb' hnil
    obtain ⟨hdone, hsbare, hspend, hscanon⟩ := hc.settle_of_full hb hfull
    refine Prod.ext ?_ hdone
    exact Still.ext hb.still_settle hs' hscanon hc' hb.settle hb' (hsbare.trans hbare)
      (hspend.trans hpending)

end Bus
end StatusRelay
