/-
# A ledger of events

Every event that a worker finds new is admitted, and then published, held by the worker until it
is, or lost. The ledger says so of the record and the store, and that the bus does what it is asked,
for three functions that say what each task holds, what it has asked the bus to publish, and what it
has lost. A task that is polled changes its own entries one after another.

| step | holds | asked for | lost |
| --- | --- | --- | --- |
| `find` | the events that are new | | |
| `request` | | an event | |
| `drive_done` | no longer its first event | nothing | |
| `cancelPublish` | | nothing | |
| `abandon` | nothing | | what it held |
-/

import StatusRelay.Proofs.Admission
import StatusRelay.Proofs.World.Quiet
import Mathlib.Logic.Function.Basic

namespace StatusRelay

open Occurrence (found fresh sent)

/-! ### The bus -/

namespace Bus

/-- **A bus does what it is asked:** it has under way what each task has asked for, and has
published some events, which are in its queues in their order. -/
structure Carries (posed : Nat → Option Event) (published : List Event) (b : Bus) : Prop where
  sound : b.Sound
  pending : ∀ p, p ∈ b.pending ↔ posed p.ticket = some p.event
  counted : b.stats.published = published.length
  queued : ∀ id es, b.contents id = some es → es.Sublist published

namespace Carries

variable {posed : Nat → Option Event} {published : List Event} {b b' : Bus} {i : Nat}

/-- What no publish notices. -/
theorem of_shrinks (h : Carries posed published b) (hsound : b'.Sound)
    (hpending : b'.pending = b.pending) (hstats : b'.stats = b.stats) (hcontents : b.Shrinks b') :
    Carries posed published b' where
  sound := hsound
  pending := hpending ▸ h.pending
  counted := by rw [hstats, h.counted]
  queued := by
    intro id es' hes
    obtain ⟨es, hc, hsub⟩ := hcontents id es' hes
    exact hsub.trans (h.queued id es hc)

theorem request (h : Carries posed published b) (event : Event) (hi : posed i = none) :
    Carries (Function.update posed i (some event)) published (b.request i event) := by
  have hout : i ∉ b.waiting := by
    rw [waiting_eq]
    intro hmem
    obtain ⟨p, hp, rfl⟩ := List.mem_map.1 hmem
    rw [(h.pending p).1 hp] at hi
    simp at hi
  have hstats : (b.request i event).stats = b.stats := by
    unfold Bus.request
    split <;> rfl
  refine ⟨h.sound.request event hout, fun p => ?_, by rw [hstats, h.counted], fun id es hes => ?_⟩
  · rw [h.sound.pending_request, List.mem_append, List.mem_singleton, h.pending]
    by_cases hp : p.ticket = i
    · subst hp
      rw [hi, Function.update_self]
      constructor
      · rintro (hnone | hp)
        · simp at hnone
        · rw [hp]
      · intro he
        exact Or.inr (by rw [Option.some.inj he])
    · rw [Function.update_of_ne hp]
      constructor
      · rintro (he | rfl)
        · exact he
        · exact absurd rfl hp
      · exact Or.inl
  · exact h.queued id es (b.contents_request i event ▸ hes)

/-- A publish that is given up is no longer asked for. -/
theorem cancel (h : Carries posed published b) (i : Nat) :
    Carries (Function.update posed i none) published (b.cancel i).2.1 := by
  refine ⟨h.sound.cancel i, fun p => ?_, ?_, fun id es hes => ?_⟩
  · rw [h.sound.pending_cancel, List.mem_filter, h.pending]
    by_cases hp : p.ticket = i
    · subst hp
      simp
    · rw [Function.update_of_ne hp]
      simp [hp]
  · rw [h.sound.stats_cancel, h.counted]
  · exact h.queued id es (contents_cancel h.sound i ▸ hes)

theorem subscribe (h : Carries posed published b) {id : Nat} (hs : b.subscribe? = some (id, b')) :
    Carries posed published b' := by
  have hsound := h.sound.subscribe hs
  have hcontents := contents_subscribe h.sound hs
  obtain ⟨rfl, rfl⟩ := subscribe?_eq hs
  refine ⟨hsound, h.pending, h.counted, fun x es hes => ?_⟩
  rw [hcontents x] at hes
  split at hes
  · rw [← Option.some.inj hes]
    exact List.nil_sublist _
  · exact h.queued x es hes

/-- A publish that waits is still asked for. -/
theorem drive_wait (h : Carries posed published b) (hd : b.drive.2.1 = none) :
    Carries posed published b.drive.1 :=
  h.of_shrinks h.sound.drive (h.sound.pending_drive_of_none hd) (h.sound.stats_drive_of_none hd)
    (shrinks_drive_of_none h.sound hd)

/-- **What is published is the event that was asked for.** -/
theorem drive_done (h : Carries posed published b) {event : Event}
    (hholder : b.gate.holder? = some i) (hposed : posed i = some event) {done : Nat × Nat}
    (hd : b.drive.2.1 = some done) :
    Carries (Function.update posed i none) (published ++ [event]) b.drive.1 := by
  obtain ⟨p, hp, hpending⟩ := pending_of_holder? hholder
  obtain ⟨p', -, hrest⟩ := h.sound.pending_drive_of_some hd
  obtain ⟨rfl, -⟩ := List.cons.inj (hrest.symm.trans hpending)
  have hevent : p'.event = event := by
    have hasked := (h.pending p').1 (hrest ▸ List.mem_cons_self)
    rw [hp, hposed] at hasked
    exact (Option.some.inj hasked).symm
  have hnodup := h.sound.tickets
  rw [hrest, List.map_cons, List.nodup_cons] at hnodup
  refine ⟨h.sound.drive, fun q => ?_, ?_, fun id es' hes => ?_⟩
  · by_cases hq : q.ticket = i
    · rw [hq, Function.update_self]
      refine ⟨fun hmem => ?_, fun hnone => by simp at hnone⟩
      rw [hp, ← hq] at hnodup
      exact absurd (List.mem_map_of_mem hmem) hnodup.1
    · rw [Function.update_of_ne hq, ← h.pending, hrest, List.mem_cons]
      refine ⟨Or.inr, fun hmem => hmem.resolve_left ?_⟩
      rintro rfl
      exact hq hp
  · rw [h.sound.published_drive_of_some hd, h.counted, List.length_append, List.length_singleton]
  · obtain ⟨es, hc, hsub⟩ := contents_drive_of_some h.sound hd hrest hes
    rw [hevent] at hsub
    exact hsub.trans ((h.queued id es hc).append (List.Sublist.refl [event]))

end Carries
end Bus

namespace World

/-! ### The record -/

/-- **A record accounts for events,** given what each task holds and what it has lost: all that a
fetch brought have been admitted, and those that were new are published, held or lost. -/
structure Tale (keys : List Key) (own lost : Nat → List Event) (log : List Occurrence.Entry) :
    Prop where
  stored : keys.reverse = (eventsIn fresh log).map Event.key
  normal : ∀ key, key ∈ keys ↔ key ∈ (eventsIn found log).map Event.key
  split : ∀ i, eventsIn fresh (ofTask i log) = eventsIn sent (ofTask i log) ++ own i ++ lost i
  chosen : ∀ i, (eventsIn fresh (ofTask i log)).Sublist (eventsIn found (ofTask i log))

namespace Tale

variable {keys : List Key} {own lost : Nat → List Event} {log : List Occurrence.Entry} {i : Nat}

/-- Nothing is told of events on their way. -/
theorem append (h : Tale keys own lost log) {more : List Occurrence.Entry}
    (hmore : ∀ e ∈ more, e.what.onTheWay = []) : Tale keys own lost (more ++ log) := by
  have hviews := fun e he => Occurrence.views_of_onTheWay (hmore e he)
  have hfound : ∀ e ∈ more, e.what.found = [] := fun e he => (hviews e he).1
  have hfresh : ∀ e ∈ more, e.what.fresh = [] := fun e he => (hviews e he).2.1
  have hsent : ∀ e ∈ more, e.what.sent = [] := fun e he => (hviews e he).2.2
  refine ⟨?_, ?_, fun j => ?_, fun j => ?_⟩
  · rw [eventsIn_append_of_nil hfresh, h.stored]
  · rw [eventsIn_append_of_nil hfound]
    exact h.normal
  · rw [eventsIn_ofTask_append_of_nil j hfresh, eventsIn_ofTask_append_of_nil j hsent]
    exact h.split j
  · rw [eventsIn_ofTask_append_of_nil j hfresh, eventsIn_ofTask_append_of_nil j hfound]
    exact h.chosen j

/-- The first event that a task holds is published. -/
theorem send (h : Tale keys own lost log) {event : Event} {rest : List Event}
    (hown : own i = event :: rest) (time count : Nat) :
    Tale keys (Function.update own i rest) lost (⟨time, i, .delivered event count⟩ :: log) := by
  refine ⟨?_, fun key => ?_, fun j => ?_, fun j => ?_⟩
  · rw [eventsIn_cons, h.stored]
    simp [fresh]
  · rw [eventsIn_cons, h.normal]
    simp [found]
  · rw [eventsIn_ofTask_cons, eventsIn_ofTask_cons, h.split]
    by_cases hj : i = j
    · subst hj
      simp [hown, fresh, sent]
    · simp [hj, Function.update_of_ne (Ne.symm hj)]
  · rw [eventsIn_ofTask_cons, eventsIn_ofTask_cons]
    simpa [fresh, found] using h.chosen j

/-- A task gives up what it holds. -/
theorem abandon (h : Tale keys own lost log) (hlost : lost i = []) :
    Tale keys (Function.update own i []) (Function.update lost i (own i)) log := by
  refine ⟨h.stored, h.normal, fun j => ?_, h.chosen⟩
  rw [h.split j]
  by_cases hj : j = i
  · subst hj
    rw [hlost, Function.update_self, Function.update_self, List.append_nil, List.append_nil]
  · rw [Function.update_of_ne hj, Function.update_of_ne hj]

/-- **The events of a fetch that are new are admitted,** and held by the task. -/
theorem find {s : Admission} (h : Tale s.keys own lost log) (hown : own i = []) (hlost : lost i = [])
    (time elapsed duplicates : Nat) (name name' : String) (outcome : FetchOutcome) :
    Tale (s.filter outcome.found).2.keys (Function.update own i (s.filter outcome.found).1) lost
      (⟨time, i, .filtered name' (s.filter outcome.found).1 duplicates⟩ ::
        ⟨time, i, .fetchEnded name elapsed outcome⟩ :: log) := by
  refine ⟨?_, fun key => ?_, fun j => ?_, fun j => ?_⟩
  · rw [eventsIn_cons, eventsIn_cons, Admission.keys_filter, List.reverse_append,
      List.reverse_reverse, h.stored]
    simp [fresh]
  · rw [eventsIn_cons, eventsIn_cons, Admission.mem_keys_filter, h.normal]
    simp [found]
  · simp only [eventsIn_ofTask_cons, h.split j]
    by_cases hj : i = j
    · subst hj
      simp [hown, hlost, fresh, sent]
    · simp [hj, Function.update_of_ne (Ne.symm hj)]
  · simp only [eventsIn_ofTask_cons]
    by_cases hj : i = j
    · subst hj
      simpa [fresh, found] using (h.chosen i).append (Admission.filter_sublist s outcome.found)
    · simpa [hj] using h.chosen j

/-- **Where the admitted keys are.** -/
theorem keys_perm (h : Tale keys own lost log) {n : Nat} (hn : ∀ e ∈ log, e.task < n) :
    keys.Perm ((eventsIn sent log ++ (List.range n).flatMap own ++
      (List.range n).flatMap lost).map Event.key) := by
  have hfresh := eventsIn_perm fresh hn
  have hsent := eventsIn_perm sent hn
  have hsplit : ((List.range n).flatMap fun i => eventsIn fresh (ofTask i log)).Perm
      ((List.range n).flatMap (fun i => eventsIn sent (ofTask i log)) ++
        (List.range n).flatMap own ++ (List.range n).flatMap lost) := by
    simp only [h.split]
    refine (List.flatMap_append_perm _ _ _).symm.trans ?_
    exact (List.flatMap_append_perm _ _ _).symm.append_right _
  refine (List.reverse_perm _).symm.trans ?_
  rw [h.stored]
  refine List.Perm.map _ (hfresh.trans (hsplit.trans ?_))
  exact (hsent.symm.append_right _).append_right _

end Tale

/-! ### Both together -/

/-- **Every event that was found new is accounted for,** given what each task holds, what it has
asked the bus to publish, and what it has lost. -/
structure Ledger (own : Nat → List Event) (posed : Nat → Option Event) (lost : Nat → List Event)
    (w : World) : Prop extends Bus.Carries posed (eventsIn sent w.log) w.bus,
      Tale w.admission.keys own lost w.log where
  known : ∀ e ∈ w.log, e.task < w.tasks.length

namespace Ledger

variable {own lost : Nat → List Event} {posed : Nat → Option Event} {w w' : World} {i : Nat}

theorem of_same (h : Ledger own posed lost w) (hbus : w'.bus = w.bus)
    (hadmission : w'.admission = w.admission) (hlog : w'.log = w.log)
    (hlength : w.tasks.length ≤ w'.tasks.length) : Ledger own posed lost w' where
  toCarries := by rw [hbus, hlog]; exact h.toCarries
  toTale := by rw [hadmission, hlog]; exact h.toTale
  known := fun e he => Nat.lt_of_lt_of_le (h.known e (hlog ▸ he)) hlength

/-- The permits have nothing to do with it. -/
theorem setPermits (h : Ledger own posed lost w) (permits : Permits) :
    Ledger own posed lost { w with permits := permits } :=
  h.of_same rfl rfl rfl (Nat.le_refl _)

theorem withPermits (h : Ledger own posed lost w) (permits : Permits) (given : Option Nat) :
    Ledger own posed lost (w.withPermits permits given) := by
  obtain ⟨more, hw⟩ := withPermits_eq w permits given
  rw [hw]
  exact h.of_same rfl rfl rfl (Nat.le_refl _)

/-- Another bus that has published the same. -/
theorem withBus (h : Ledger own posed lost w) {bus : Bus} {posed' : Nat → Option Event}
    (hbus : bus.Carries posed' (eventsIn sent w.log)) (parties : List Wake) :
    Ledger own posed' lost (w.withBus bus parties) := by
  obtain ⟨more, hw⟩ := withBus_eq w bus parties
  rw [hw]
  exact ⟨hbus, h.toTale, h.known⟩

/-- Nothing is told of events on their way, and no publish notices anything. -/
theorem append_log (h : Ledger own posed lost w) (more : List Occurrence.Entry) {bus : Bus}
    (hbus : bus.Carries posed (eventsIn sent w.log))
    (hmore : ∀ e ∈ more, e.task < w.tasks.length ∧ e.what.onTheWay = []) :
    Ledger own posed lost { w with bus := bus, log := more ++ w.log } := by
  have hsent : ∀ e ∈ more, e.what.sent = [] := fun e he =>
    (Occurrence.views_of_onTheWay (hmore e he).2).2.2
  refine ⟨?_, h.toTale.append fun e he => (hmore e he).2, fun e he => ?_⟩
  · rw [eventsIn_append_of_nil hsent]
    exact hbus
  · rcases List.mem_append.1 he with he | he
    · exact (hmore e he).1
    · exact h.known e he

theorem note (h : Ledger own posed lost w) (hi : i < w.tasks.length) (what : Occurrence)
    (hwhat : what.onTheWay = []) : Ledger own posed lost (w.note i what) :=
  h.append_log [⟨w.now, i, what⟩] h.toCarries (by simp [hi, hwhat])

/-- Nothing happens to events on their way. -/
theorem idle (h : Ledger own posed lost w) (hi : i < w.tasks.length) (hidle : Idle i w w') :
    Ledger own posed lost w' := by
  obtain ⟨more, hlog, hmore⟩ := hidle.log
  have hbus : w'.bus.Carries posed (eventsIn sent w.log) := h.toCarries.of_shrinks
    (hidle.sound h.sound) hidle.pending hidle.stats hidle.contents
  have hl : Ledger own posed lost { w with bus := w'.bus, log := more ++ w.log } :=
    h.append_log more hbus fun e he => ⟨(hmore e he).1 ▸ hi, hidle.silent more hlog e he⟩
  exact hl.of_same rfl hidle.admission hlog hidle.length.ge

theorem request (h : Ledger own posed lost w) (event : Event) (hi : posed i = none) :
    Ledger own (Function.update posed i (some event)) lost (w.request i event) :=
  ⟨h.toCarries.request event hi, h.toTale, h.known⟩

theorem cancelPublish (h : Ledger own posed lost w) (i : Nat) :
    Ledger own (Function.update posed i none) lost (w.cancelPublish i) :=
  h.withBus (h.toCarries.cancel i) _

theorem abandon (h : Ledger own posed lost w) (hlost : lost i = []) :
    Ledger (Function.update own i []) posed (Function.update lost i (own i)) w :=
  ⟨h.toCarries, h.toTale.abandon hlost, h.known⟩

/-- A publish that waits is still asked for. -/
theorem drive_wait (h : Ledger own posed lost w) {event : Event}
    (hd : w.drive i event = (w', none)) : Ledger own posed lost w' := by
  unfold World.drive at hd
  split at hd
  · split at hd
    · simp at hd
    · rename_i bus parties hdrive
      obtain rfl := (Prod.mk.inj hd).1
      have hb := h.toCarries.drive_wait (by rw [hdrive])
      rw [hdrive] at hb
      exact h.withBus hb parties
  · obtain rfl := (Prod.mk.inj hd).1
    exact h

/-- **A publish that is completed** is told of, and what it published is no longer held. -/
theorem drive_done (h : Ledger own posed lost w) (hi : i < w.tasks.length) {event : Event}
    {rest : List Event} (hown : own i = event :: rest) (hposed : posed i = some event) {count : Nat}
    (hd : w.drive i event = (w', some count)) :
    Ledger (Function.update own i rest) (Function.update posed i none) lost w' := by
  unfold World.drive at hd
  split at hd
  · rename_i hholder
    split at hd
    · rename_i bus ticket count' parties hdrive
      obtain rfl := (Prod.mk.inj hd).1
      have hb := h.toCarries.drive_done hholder hposed (by rw [hdrive])
      rw [hdrive] at hb
      obtain ⟨more, hw⟩ := withBus_eq w bus parties
      rw [hw]
      refine ⟨?_, h.toTale.send hown w.now count', fun e he => ?_⟩
      · change bus.Carries _ (eventsIn sent (_ :: w.log))
        rw [eventsIn_cons]
        exact hb
      · rcases List.mem_cons.1 he with rfl | he
        · exact hi
        · exact h.known e he
    · simp at hd
  · simp at hd

/-- A fetch comes to its end, and its events are filtered. -/
theorem find (h : Ledger own posed lost w) (hi : i < w.tasks.length) (hown : own i = [])
    (hlost : lost i = []) (name name' : String) (elapsed duplicates : Nat) (outcome : FetchOutcome) :
    Ledger (Function.update own i (w.admission.filter outcome.found).1) posed lost
      ({ w.note i (.fetchEnded name elapsed outcome) with
        admission := (w.admission.filter outcome.found).2 }.note i
          (.filtered name' (w.admission.filter outcome.found).1 duplicates)) := by
  refine ⟨?_, h.toTale.find hown hlost w.now elapsed duplicates name name' outcome, fun e he => ?_⟩
  · change w.bus.Carries posed (eventsIn sent (_ :: _ :: w.log))
    rw [eventsIn_cons, eventsIn_cons]
    simpa [sent] using h.toCarries
  · rcases List.mem_cons.1 he with rfl | he
    · exact hi
    · rcases List.mem_cons.1 he with rfl | he
      · exact hi
      · exact h.known e he

end Ledger
end World
end StatusRelay
