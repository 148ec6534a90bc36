/-
# What a poll leaves alone

A task that is polled changes its own record, and stands `Apart` from all others. It shares with
them the permits, the store, the bus and the queue of tasks to poll. Most of what it does is
`Quiet`: the permits stay, nobody leaves the queue, and no fetch begins or ends. Consumers, and whoever
deals with subscriptions, do even less; they are `Idle`: the store, the signal and the publishes stay
as well, and the record tells of nothing that came from a fetch.

| function | |
| --- | --- |
| `pollWorker`, `poll` | apart |
| `sleep`, `publish`, `sift`, `endWorker`, `cancelPublish`, `pollPublisher` | quiet |
| `receive`, `endConsumer`, `pollConsumer`, `take`, `drain`, `closeBus` | idle |
-/

import StatusRelay.Proofs.Bus.Contents
import StatusRelay.Proofs.World.Frames
import StatusRelay.Proofs.World.Moves
import StatusRelay.Proofs.World.Record

namespace StatusRelay

namespace World

/-- The stage of a worker, if the task is one. -/
def stageAt (w : World) (task : Nat) : Option Stage :=
  (w.tasks[task]?.bind Task.worker?).map (·.stage)

/-- A task has changed its own record at most, of all tasks. -/
structure Apart (i : Nat) (w w' : World) : Prop where
  length : w'.tasks.length = w.tasks.length
  others : ∀ j, j ≠ i → w'.tasks[j]? = w.tasks[j]?

/-- A task has changed its own record, the bus and the store at most. -/
structure Quiet (i : Nat) (w w' : World) : Prop extends Apart i w w' where
  permits : w'.permits = w.permits
  ready : w.ready ⊆ w'.ready
  log : ∃ more, w'.log = more ++ w.log ∧
    ∀ e ∈ more, e.task = i ∧ e.what.inFlightChange = 0

/-- A task has changed its own record at most, and taken events off queues. -/
structure Idle (i : Nat) (w w' : World) : Prop extends Quiet i w w' where
  stage : w.stageAt i = none → w'.stageAt i = none
  guest : ∀ event stage, w'.tasks[i]? = some (.publisher event stage) →
    w.tasks[i]? = some (.publisher event stage)
  silent : ∀ more, w'.log = more ++ w.log → ∀ e ∈ more, e.what.onTheWay = []
  admission : w'.admission = w.admission
  signal : w'.signal = w.signal
  sound : w.bus.Sound → w'.bus.Sound
  pending : w'.bus.pending = w.bus.pending
  stats : w'.bus.stats = w.bus.stats
  contents : w.bus.Shrinks w'.bus

namespace Apart

variable {i : Nat} {w w' : World}

theorem of_same (h : w'.tasks = w.tasks) : Apart i w w' :=
  ⟨by rw [h], fun _ _ => by rw [h]⟩

theorem refl (i : Nat) (w : World) : Apart i w w := of_same rfl

theorem trans {a b c : World} (h : Apart i a b) (h' : Apart i b c) : Apart i a c :=
  ⟨h'.length.trans h.length, fun j hj => (h'.others j hj).trans (h.others j hj)⟩

theorem withPermits (w : World) (permits : Permits) (given : Option Nat) :
    Apart i w (w.withPermits permits given) := by
  obtain ⟨more, h⟩ := withPermits_eq w permits given
  exact of_same (by rw [h])

end Apart

namespace Quiet

variable {i : Nat} {w w' : World}

theorem refl (i : Nat) (w : World) : Quiet i w w :=
  ⟨Apart.refl i w, rfl, fun _ h => h, [], rfl, by simp⟩

theorem trans {a b c : World} (h : Quiet i a b) (h' : Quiet i b c) : Quiet i a c where
  toApart := h.toApart.trans h'.toApart
  permits := h'.permits.trans h.permits
  ready := fun _ hx => h'.ready (h.ready hx)
  log := by
    obtain ⟨more, hl, hm⟩ := h.log
    obtain ⟨more', hl', hm'⟩ := h'.log
    refine ⟨more' ++ more, by rw [hl', hl, List.append_assoc], fun e he => ?_⟩
    rcases List.mem_append.1 he with he | he
    · exact hm' e he
    · exact hm e he

/-- A change of what no task has. -/
theorem of_same (hpermits : w'.permits = w.permits) (htasks : w'.tasks = w.tasks)
    (hlog : w'.log = w.log) (hready : w.ready ⊆ w'.ready) : Quiet i w w' :=
  ⟨Apart.of_same htasks, hpermits, hready, [], by rw [hlog]; rfl, by simp⟩

theorem note (w : World) (what : Occurrence) (h : what.inFlightChange = 0) :
    Quiet i w (w.note i what) :=
  ⟨Apart.of_same rfl, rfl, fun _ hx => hx, [⟨w.now, i, what⟩], rfl, by simp [h]⟩

theorem put (w : World) (t : Task) : Quiet i w (w.put i t) :=
  ⟨⟨List.length_set, fun _ hj => List.getElem?_set_ne (Ne.symm hj)⟩, rfl, fun _ hx => hx, [], rfl,
    by simp⟩

theorem withBus (w : World) (bus : Bus) (parties : List Wake) :
    Quiet i w (w.withBus bus parties) := by
  obtain ⟨more, h⟩ := withBus_eq w bus parties
  rw [h]
  exact of_same rfl rfl rfl (List.subset_append_left _ _)

theorem setTimer (w : World) (task due : Nat) : Quiet i w (w.setTimer task due) := by
  obtain ⟨more, timers, h⟩ := setTimer_eq w task due
  rw [h]
  exact of_same rfl rfl rfl (List.subset_append_left _ _)

theorem request (w : World) (event : Event) : Quiet i w (w.request i event) :=
  of_same rfl rfl rfl fun _ h => h

theorem drive (w : World) (event : Event) : Quiet i w (w.drive i event).1 := by
  unfold World.drive
  split
  · split
    · exact (withBus w _ _).trans (note _ _ rfl)
    · exact withBus w _ _
  · exact refl i w

theorem cancelPublish (w : World) : Quiet i w (w.cancelPublish i) := withBus w _ _

/-! ### Publishers -/

theorem pollPublisher (w : World) (event : Event) (stage : PublisherStage) :
    Quiet i w (w.pollPublisher i event stage) := by
  have hgo : ∀ w : World, Quiet i w (pollPublisher.go i event w) := by
    intro w
    have hd := drive (i := i) w event
    unfold pollPublisher.go
    split
    · rename_i h
      rw [h] at hd
      exact hd.trans (put _ _)
    · rename_i h
      rw [h] at hd
      exact hd.trans (put _ _)
  rcases stage with _ | _ | _
  · exact (request w event).trans (hgo _)
  · exact hgo w
  · exact refl i w

/-! ### Workers -/

theorem endWorker (w : World) (k : Worker) (stage : Stage) :
    Quiet i w (w.endWorker i k stage) :=
  (put w _).trans (note _ _ rfl)

theorem sleep (w : World) (k : Worker) : Quiet i w (w.sleep i k) :=
  (put w _).trans (setTimer _ _ _)

theorem publish (w : World) (k : Worker) (pending : List Event) :
    Quiet i w (w.publish i k pending) := by
  induction pending generalizing w k with
  | nil => exact sleep w k
  | cons e es ih =>
    have hd := drive (i := i) w e
    unfold World.publish
    split
    · rename_i h
      rw [h] at hd
      exact hd.trans (put _ _)
    · rename_i h
      rw [h] at hd
      have hn := hd.trans (note _ (.published k.name e) rfl)
      split
      · exact hn.trans (sleep _ _)
      · exact hn.trans ((request _ _).trans (ih _ _))

theorem sift (w : World) (k : Worker) (found : List Event) : Quiet i w (w.sift i k found) := by
  have hstore : Quiet i w { w with admission := (w.admission.filter found).2 } :=
    of_same rfl rfl rfl fun _ h => h
  unfold World.sift
  simp only
  split
  · exact (hstore.trans (note _ _ rfl)).trans (sleep _ _)
  · exact (hstore.trans (note _ _ rfl)).trans ((request _ _).trans (publish _ _ _))

end Quiet

/-! ### A whole poll -/

namespace Apart

theorem frame (i : Nat) (may : Occurrence → Prop) : Frame i may (Apart i) where
  refl := refl i
  trans := trans
  put w t := (Quiet.put w t).toApart
  note _ _ _ := of_same rfl
  setTimer w due := (Quiet.setTimer w i due).toApart
  request _ _ := of_same rfl
  drive w event := (Quiet.drive w event).toApart
  cancel w := (Quiet.cancelPublish w).toApart
  permit := withPermits
  collect _ _ := of_same rfl
  remember _ _ := of_same rfl
  ask _ _ := of_same rfl
  take w _ := (Quiet.withBus w _ _).toApart
  leave w _ := (Quiet.withBus w _ _).toApart

/-- **A worker that is polled leaves all other tasks as they are.** -/
theorem pollWorker {i : Nat} (w : World) (k : Worker) : Apart i w (w.pollWorker i k) :=
  (frame i _).sending.pollWorker w rfl

/-- **So does every task.** -/
theorem poll (w : World) (i : Nat) : Apart i w (w.poll i) :=
  Frame.poll_of_all (frame i) w

end Apart

/-! ### The stage of a worker afterwards -/

theorem stageAt_of_worker {w : World} {i : Nat} {k : Worker}
    (hk : w.tasks[i]? = some (.worker k)) : w.stageAt i = some k.stage := by
  unfold stageAt
  rw [hk]
  rfl

/-- Only workers have a stage. -/
theorem stageAt_of_other {w : World} {i : Nat} (h : ∀ t, w.tasks[i]? = some t → t.worker? = none) :
    w.stageAt i = none := by
  unfold stageAt
  rcases ht : w.tasks[i]? with _ | t
  · rfl
  · rw [Option.bind_some, h t ht]
    rfl

theorem stageAt_length (w : World) : w.stageAt w.tasks.length = none :=
  stageAt_of_other fun t ht => by simp at ht

theorem stageAt_put {w : World} {i : Nat} (hi : i < w.tasks.length) (k : Worker) :
    (w.put i (.worker k)).stageAt i = some k.stage := by
  unfold stageAt put
  rw [List.getElem?_set_self hi]
  rfl

/-- What is not a worker has no stage. -/
theorem stageAt_put_none {w : World} {i : Nat} {t : Task} (ht : t.worker? = none) :
    (w.put i t).stageAt i = none := by
  unfold stageAt put
  by_cases hi : i < w.tasks.length
  · rw [List.getElem?_set_self hi, Option.bind_some, ht]
    rfl
  · rw [List.getElem?_eq_none (by simpa using Nat.le_of_not_lt hi)]
    rfl

/-- The stage of a task that is added, and of the others. -/
theorem stageAt_spawn (w : World) (t : Task) (j : Nat) : (w.spawn t).stageAt j =
    if j = w.tasks.length then t.worker?.map (·.stage) else w.stageAt j := by
  obtain ⟨more, h, -⟩ := spawn_eq w t
  rw [h]
  unfold stageAt
  simp only [List.getElem?_append]
  by_cases hj : j < w.tasks.length
  · rw [if_pos hj, if_neg (Nat.ne_of_lt hj)]
  · rw [if_neg hj]
    by_cases heq : j = w.tasks.length
    · subst heq
      simp
    · rw [if_neg heq, List.getElem?_eq_none (Nat.le_of_not_lt hj),
        List.getElem?_eq_none (by simp; omega)]

/-- A worker that is added has not begun. -/
theorem stageAt_spawn_new (w : World) {t : Task} (ht : ∀ k, t.worker? = some k → k.stage = .ready)
    (j : Nat) : (w.spawn t).stageAt j = w.stageAt j ∨
      (j = w.tasks.length ∧ w.stageAt j = none ∧ (w.spawn t).stageAt j = some .ready) := by
  rw [stageAt_spawn]
  by_cases hj : j = w.tasks.length
  · subst hj
    rw [if_pos rfl, stageAt_length]
    rcases hk : t.worker? with _ | k
    · exact Or.inl rfl
    · exact Or.inr ⟨rfl, rfl, congrArg some (ht k hk)⟩
  · rw [if_neg hj]
    exact Or.inl rfl

theorem stageAt_congr {w w' : World} {i : Nat} (h : w'.tasks[i]? = w.tasks[i]?) :
    w'.stageAt i = w.stageAt i := by
  unfold stageAt
  rw [h]

theorem stageAt_setTimer (w : World) (task due i : Nat) :
    (w.setTimer task due).stageAt i = w.stageAt i := by
  obtain ⟨more, timers, h⟩ := setTimer_eq w task due
  rw [h]
  rfl

theorem log_setTimer (w : World) (task due : Nat) : (w.setTimer task due).log = w.log := by
  obtain ⟨more, timers, h⟩ := setTimer_eq w task due
  rw [h]

theorem stageAt_sleep {w : World} {i : Nat} (hi : i < w.tasks.length) (k : Worker) :
    (w.sleep i k).stageAt i = some (.sleeping (w.now + k.interval)) := by
  unfold sleep
  rw [stageAt_setTimer, stageAt_put hi]

theorem stageAt_endWorker {w : World} {i : Nat} (hi : i < w.tasks.length) (k : Worker)
    (stage : Stage) : (w.endWorker i k stage).stageAt i = some stage :=
  stageAt_put hi { k with stage := stage }

/-- A worker that publishes still does so afterwards, or sleeps. -/
theorem stageAt_publish {w : World} {i : Nat} (hi : i < w.tasks.length) (k : Worker)
    (pending : List Event) : (∃ rest, (w.publish i k pending).stageAt i = some (.publishing rest)) ∨
      ∃ due, (w.publish i k pending).stageAt i = some (.sleeping due) := by
  induction pending generalizing w k with
  | nil => exact Or.inr ⟨_, stageAt_sleep hi k⟩
  | cons e es ih =>
    have hd := (Quiet.drive (i := i) w e).length
    unfold publish
    split
    · rename_i h
      rw [h] at hd
      exact Or.inl ⟨_, stageAt_put (hd ▸ hi) _⟩
    · rename_i h
      rw [h] at hd
      split
      · exact Or.inr ⟨_, stageAt_sleep (hd ▸ hi) _⟩
      · exact ih (hd ▸ hi) _

theorem stageAt_sift {w : World} {i : Nat} (hi : i < w.tasks.length) (k : Worker)
    (found : List Event) : (∃ rest, (w.sift i k found).stageAt i = some (.publishing rest)) ∨
      ∃ due, (w.sift i k found).stageAt i = some (.sleeping due) := by
  unfold sift
  simp only
  split
  · refine Or.inr ⟨_, stageAt_sleep ?_ _⟩
    exact hi
  · refine stageAt_publish ?_ _ _
    exact hi

theorem stageAt_pollPublisher {w : World} {i : Nat} (hs : w.stageAt i = none) (event : Event)
    (stage : PublisherStage) : (w.pollPublisher i event stage).stageAt i = none := by
  have hgo : ∀ w : World, (pollPublisher.go i event w).stageAt i = none := by
    intro w
    unfold pollPublisher.go
    split <;> exact stageAt_put_none rfl
  rcases stage with _ | _ | _
  · exact hgo _
  · exact hgo _
  · exact hs

/-! ### Consumers and subscriptions -/

namespace Idle

variable {i : Nat} {w w' : World}

theorem silent_of_log {l : List Occurrence.Entry} (hlog : w'.log = l ++ w.log)
    (h : ∀ e ∈ l, e.what.onTheWay = []) :
    ∀ more, w'.log = more ++ w.log → ∀ e ∈ more, e.what.onTheWay = [] := by
  intro more hmore
  rw [List.append_cancel_right (hmore.symm.trans hlog)]
  exact h

/-- A change of what no task has and nothing is told of. -/
theorem of_same (hpermits : w'.permits = w.permits) (htasks : w'.tasks = w.tasks)
    (hready : w.ready ⊆ w'.ready) (hlog : w'.log = w.log) (hadmission : w'.admission = w.admission)
    (hsignal : w'.signal = w.signal) (hsound : w.bus.Sound → w'.bus.Sound)
    (hpending : w'.bus.pending = w.bus.pending) (hstats : w'.bus.stats = w.bus.stats)
    (hcontents : w.bus.Shrinks w'.bus) : Idle i w w' where
  toQuiet := Quiet.of_same hpermits htasks hlog hready
  stage := fun hs => (stageAt_congr (by rw [htasks])).trans hs
  guest := fun event stage hg => by rwa [htasks] at hg
  silent := silent_of_log (l := []) hlog (by simp)
  admission := hadmission
  signal := hsignal
  sound := hsound
  pending := hpending
  stats := hstats
  contents := hcontents

theorem refl (i : Nat) (w : World) : Idle i w w :=
  of_same rfl rfl (fun _ h => h) rfl rfl rfl (fun h => h) rfl rfl
    (Bus.Shrinks.of_eq rfl)

theorem trans {a b c : World} (h : Idle i a b) (h' : Idle i b c) : Idle i a c where
  toQuiet := h.toQuiet.trans h'.toQuiet
  stage := fun hs => h'.stage (h.stage hs)
  guest := fun event stage hg => h.guest event stage (h'.guest event stage hg)
  silent := by
    obtain ⟨more, hl, -⟩ := h.log
    obtain ⟨more', hl', -⟩ := h'.log
    refine silent_of_log (l := more' ++ more) (by rw [hl', hl, List.append_assoc]) fun e he => ?_
    rcases List.mem_append.1 he with he | he
    · exact h'.silent more' hl' e he
    · exact h.silent more hl e he
  admission := h'.admission.trans h.admission
  signal := h'.signal.trans h.signal
  sound := fun hs => h'.sound (h.sound hs)
  pending := h'.pending.trans h.pending
  stats := h'.stats.trans h.stats
  contents := h.contents.trans h'.contents

/-- A change of what only the task has. -/
theorem of_quiet (h : Quiet i w w') (hstage : w.stageAt i = none → w'.stageAt i = none)
    (hguest : ∀ event stage, w'.tasks[i]? = some (.publisher event stage) →
      w.tasks[i]? = some (.publisher event stage))
    (hsilent : ∀ more, w'.log = more ++ w.log → ∀ e ∈ more, e.what.onTheWay = [])
    (hadmission : w'.admission = w.admission) (hsignal : w'.signal = w.signal)
    (hbus : w'.bus = w.bus) : Idle i w w' where
  toQuiet := h
  stage := hstage
  guest := hguest
  silent := hsilent
  admission := hadmission
  signal := hsignal
  sound := fun hs => hbus ▸ hs
  pending := by rw [hbus]
  stats := by rw [hbus]
  contents := Bus.Shrinks.of_eq (by rw [hbus])

theorem note (w : World) (what : Occurrence) (h : what.inFlightChange = 0)
    (h' : what.onTheWay = []) : Idle i w (w.note i what) :=
  of_quiet (Quiet.note w what h) (fun hs => hs) (fun _ _ hg => hg)
    (silent_of_log (l := [⟨w.now, i, what⟩]) rfl (by simp [h'])) rfl rfl rfl

theorem put (w : World) (c : Consumer) : Idle i w (w.put i (.consumer c)) := by
  refine of_quiet (Quiet.put w _) (fun _ => stageAt_put_none rfl) (fun event stage hg => ?_)
    (silent_of_log (l := []) rfl (by simp)) rfl rfl rfl
  unfold World.put at hg
  rw [List.getElem?_set_self'] at hg
  rcases ht : w.tasks[i]? with _ | t
  · rw [ht] at hg
    simp at hg
  · rw [ht] at hg
    simp at hg

/-- An operation on the bus that no publish notices. -/
theorem withBus (w : World) {bus : Bus} (parties : List Wake) (hsound : w.bus.Sound → bus.Sound)
    (hpending : bus.pending = w.bus.pending) (hstats : bus.stats = w.bus.stats)
    (hcontents : w.bus.Shrinks bus) : Idle i w (w.withBus bus parties) := by
  obtain ⟨more, h⟩ := withBus_eq w bus parties
  rw [h]
  exact of_same rfl rfl (List.subset_append_left _ _) rfl rfl rfl hsound hpending hstats
    hcontents

theorem setTimer (w : World) (task due : Nat) : Idle i w (w.setTimer task due) := by
  obtain ⟨more, timers, h⟩ := setTimer_eq w task due
  rw [h]
  exact of_same rfl rfl (List.subset_append_left _ _) rfl rfl rfl (fun h => h) rfl rfl
    (Bus.Shrinks.of_eq rfl)

theorem takeBus (w : World) (queue : Nat) :
    Idle i w (w.withBus (w.bus.take queue).2.1 (w.bus.take queue).2.2) := by
  have heq := Bus.take_eq w.bus queue
  refine withBus w _ (fun h => h.take queue) ?_ ?_ (w.bus.shrinks_take queue)
  · rw [heq]
    rfl
  · rw [heq]

theorem unsubscribe (w : World) (queue : Nat) : Idle i w (w.unsubscribe queue) :=
  withBus w _ (fun h => h.unsubscribe queue) rfl rfl (w.bus.shrinks_unsubscribe queue)

theorem drain (w : World) (queue : Nat) : Idle i w (w.drain queue).2 := by
  have heq := Bus.drain_eq w.bus queue
  change Idle i w (w.withBus (w.bus.drain queue).2.1 (w.bus.drain queue).2.2)
  refine withBus w _ (fun h => h.drain queue) ?_ ?_ (w.bus.shrinks_drain queue)
  · rw [heq]
    rfl
  · rw [heq]

theorem closeBus (w : World) : Idle i w w.closeBus :=
  withBus w _ (fun h => h.close) rfl rfl (Bus.Shrinks.of_eq w.bus.contents_close)

theorem endConsumer (w : World) (c : Consumer) (stage : ConsumerStage) :
    Idle i w (w.endConsumer i c stage) :=
  ((put w _).trans (withBus _ _ (fun h => h.unsubscribe c.queue) rfl rfl
    (Bus.shrinks_unsubscribe _ c.queue))).trans (note _ _ rfl rfl)

theorem finishHandling (w : World) (c : Consumer) (event : Event) (outcome : HandlingOutcome) :
    Idle i w (w.finishHandling i c event outcome).1 := note w _ rfl rfl

theorem receive (w : World) (c : Consumer) (most : Nat) : Idle i w (w.receive i c most) := by
  induction most generalizing w c with
  | zero => exact put w _
  | succ most ih =>
    have ht := takeBus (i := i) w c.queue
    unfold World.receive
    split
    · exact put w _
    · exact endConsumer w c _
    · rename_i e bus parties h
      rw [h] at ht
      have hn := ht.trans (note _ (.taken e) rfl rfl)
      simp only
      split
      · split
        · exact hn.trans ((finishHandling _ _ _ _).trans (endConsumer _ _ _))
        · exact hn.trans ((finishHandling _ _ _ _).trans (ih _ _))
      · exact hn.trans ((put _ _).trans (setTimer _ _ _))

theorem pollConsumer (w : World) (c : Consumer) : Idle i w (w.pollConsumer i c) := by
  unfold World.pollConsumer
  split
  · exact endConsumer w c _
  · split
    · exact receive w c _
    · split
      · simp only
        split
        · exact (finishHandling w c _ _).trans (endConsumer _ _ _)
        · exact (finishHandling w c _ _).trans (receive _ _ _)
      · exact refl i w
    · exact refl i w
    · exact refl i w

end Idle
end World
end StatusRelay
