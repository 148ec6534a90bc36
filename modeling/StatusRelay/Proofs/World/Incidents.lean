/-
# No incident twice, and none lost

While the store and the bus are used by workers alone, every key that was admitted is in one place:
its event was published, or one worker still holds it and is about to publish it, or a worker that
was told to stop gave it up. A poll keeps the ledger of the tasks that are not polled as it is, and
brings that of the worker that is up to date with its stage.

| a worker that is polled | holds afterwards | has lost |
| --- | --- | --- |
| before a stop | the events that its stage names | nothing |
| after a stop | nothing | what it held |
-/

import StatusRelay.Proofs.World.Ledger
import Mathlib.Data.List.Induction

namespace StatusRelay

/-- The events that a worker at a stage has yet to publish. -/
def Stage.held : Stage → List Event
  | publishing pending => pending
  | _ => []

namespace World

open Occurrence (found fresh sent)

/-- The events that a worker has yet to publish. -/
def heldBy (w : World) (i : Nat) : List Event := ((w.stageAt i).map Stage.held).getD []

/-- The event that a worker has asked the bus to publish. -/
def posedBy (w : World) (i : Nat) : Option Event := (w.heldBy i).head?

theorem heldBy_of_stageAt {w : World} {i : Nat} {stage : Stage} (h : w.stageAt i = some stage) :
    w.heldBy i = stage.held := by
  unfold heldBy
  rw [h]
  rfl

theorem heldBy_of_none {w : World} {i : Nat} (h : w.stageAt i = none) : w.heldBy i = [] := by
  unfold heldBy
  rw [h]
  rfl

theorem heldBy_congr {w w' : World} {i : Nat} (h : w'.stageAt i = w.stageAt i) :
    w'.heldBy i = w.heldBy i := by
  unfold heldBy
  rw [h]

/-- **A worker has been polled,** and the ledger is up to date with its stage. -/
structure Polled (i : Nat) (own : Nat → List Event) (posed : Nat → Option Event)
    (lost : Nat → List Event) (w : World) : Prop where
  ledger : Ledger (Function.update own i (w.heldBy i)) (Function.update posed i (w.posedBy i)) lost w
  stage : ∃ stage, w.stageAt i = some stage

namespace Polled

variable {own lost : Nat → List Event} {posed : Nat → Option Event} {w : World} {i : Nat}

/-- The entries of the task are up to date. -/
theorem of_stage (h : Ledger own posed lost w) {stage : Stage} (hs : w.stageAt i = some stage)
    (hown : own i = stage.held) (hposed : posed i = stage.held.head?) :
    Polled i own posed lost w := by
  refine ⟨?_, stage, hs⟩
  unfold posedBy
  rw [heldBy_of_stageAt hs, ← hposed, ← hown, Function.update_eq_self, Function.update_eq_self]
  exact h

/-- What the task held before does not matter. -/
theorem of_update {x : List Event} {y : Option Event}
    (h : Polled i (Function.update own i x) (Function.update posed i y) lost w) :
    Polled i own posed lost w := by
  refine ⟨?_, h.stage⟩
  have hl := h.ledger
  rwa [Function.update_idem, Function.update_idem] at hl

theorem put (h : Ledger own posed lost w) (hi : i < w.tasks.length) (k : Worker)
    (hown : own i = k.stage.held) (hposed : posed i = k.stage.held.head?) :
    Polled i own posed lost (w.put i (.worker k)) :=
  of_stage (h.of_same rfl rfl rfl List.length_set.ge) (stageAt_put hi k) hown hposed

theorem setTimer (h : Polled i own posed lost w) (task due : Nat) :
    Polled i own posed lost (w.setTimer task due) := by
  obtain ⟨more, timers, hw⟩ := setTimer_eq w task due
  rw [hw]
  exact ⟨h.ledger.of_same rfl rfl rfl (Nat.le_refl _), h.stage⟩

theorem endWorker (h : Ledger own posed lost w) (hi : i < w.tasks.length) (k : Worker)
    {stage : Stage} (hstage : stage.held = []) (hown : own i = []) (hposed : posed i = none) :
    Polled i own posed lost (w.endWorker i k stage) := by
  have hp : Polled i own posed lost (w.put i (.worker { k with stage := stage })) :=
    put h hi _ (hown.trans hstage.symm) (by rw [hposed, hstage]; rfl)
  refine ⟨hp.ledger.note ?_ _ rfl, hp.stage⟩
  exact hi.trans_eq List.length_set.symm

theorem sleep (h : Ledger own posed lost w) (hi : i < w.tasks.length) (k : Worker)
    (hown : own i = []) (hposed : posed i = none) : Polled i own posed lost (w.sleep i k) :=
  (put h hi { k with stage := .sleeping (w.now + k.interval) } hown hposed).setTimer _ _

/-- **A worker publishes its events one after another,** and holds those that it has yet to. -/
theorem publish (h : Ledger own posed lost w) (hi : i < w.tasks.length) (k : Worker)
    {pending : List Event} (hown : own i = pending) (hposed : posed i = pending.head?) :
    Polled i own posed lost (w.publish i k pending) := by
  induction pending generalizing own posed w k with
  | nil => exact sleep h hi k hown hposed
  | cons e es ih =>
    have hlength := (Quiet.drive (i := i) w e).length
    unfold World.publish
    split
    · rename_i w' hd
      rw [hd] at hlength
      exact put (h.drive_wait hd) (hlength ▸ hi) _ hown hposed
    · rename_i w' count hd
      rw [hd] at hlength
      have hi' : i < (w'.note i (.published k.name e)).tasks.length := hlength ▸ hi
      have hn := (h.drive_done hi hown hposed hd).note (hlength ▸ hi) (.published k.name e) rfl
      refine of_update (x := es) (y := none) ?_
      split
      · exact sleep hn hi' _ (Function.update_self i _ _) (Function.update_self i _ _)
      · rename_i e' rest
        have hr := hn.request e' (Function.update_self i none posed)
        rw [Function.update_idem] at hr
        refine of_update (x := e' :: rest) (y := some e') ?_
        rw [Function.update_idem, Function.update_idem]
        exact ih hr hi' _ (Function.update_self i _ _) (Function.update_self i _ _)

/-- The events of a fetch are filtered and published. -/
theorem sift (h : Ledger own posed lost w) (hi : i < w.tasks.length) (k : Worker) (name : String)
    (elapsed : Nat) (outcome : FetchOutcome) (hown : own i = []) (hposed : posed i = none)
    (hlost : lost i = []) : Polled i own posed lost
      ((w.note i (.fetchEnded name elapsed outcome)).sift i k outcome.found) := by
  unfold World.sift
  have ha := h.find hi hown hlost name k.name elapsed
    (outcome.found.length - (w.admission.filter outcome.found).1.length) outcome
  simp only
  split
  · rename_i hnil
    refine of_update (x := (w.admission.filter outcome.found).1) (y := posed i) ?_
    rw [Function.update_eq_self]
    exact sleep ha hi _ ((Function.update_self i _ own).trans hnil) hposed
  · rename_i e es hcons
    refine of_update (x := (w.admission.filter outcome.found).1) (y := some e) ?_
    refine publish (ha.request e hposed) hi _ (Function.update_self i _ own) ?_
    rw [Function.update_self]
    exact (congrArg List.head? hcons).symm

theorem finishFetch (h : Ledger own posed lost w) (hi : i < w.tasks.length) (k : Worker)
    (since : Nat) (outcome : FetchOutcome) (hown : own i = []) (hposed : posed i = none)
    (hlost : lost i = []) : Polled i own posed lost (w.finishFetch i k since outcome) := by
  have hi' : i < w.releasePermit.tasks.length := by rwa [tasks_releasePermit]
  have hr : Ledger own posed lost w.releasePermit := h.withPermits _ _
  unfold World.finishFetch
  cases outcome with
  | events es => exact sift hr hi' k _ _ (.events es) hown hposed hlost
  | crashed crash => exact sift hr hi' _ _ _ (.crashed crash) hown hposed hlost
  | deadly => exact endWorker (hr.note hi' _ rfl) hi' _ rfl hown hposed

theorem beginFetch (h : Ledger own posed lost w) (hi : i < w.tasks.length) (k : Worker)
    (hown : own i = []) (hposed : posed i = none) (hlost : lost i = []) :
    Polled i own posed lost (w.beginFetch i k) := by
  have hn : Ledger own posed lost (w.note i .fetchBegan) := h.note hi _ rfl
  unfold World.beginFetch
  simp only
  split
  · exact finishFetch hn hi _ _ _ hown hposed hlost
  · rename_i p hp
    have hc : Ledger own posed lost { w.note i .fetchBegan with
        providers := (w.note i .fetchBegan).providers.set k.source { p with calls := p.calls + 1 } } :=
      hn.of_same rfl rfl rfl (Nat.le_refl _)
    split
    · exact finishFetch hc hi _ _ _ hown hposed hlost
    · refine (put hc hi _ ?_ ?_).setTimer _ _
      · exact hown
      · exact hposed

theorem askPermit (h : Ledger own posed lost w) (hi : i < w.tasks.length) (k : Worker)
    (hown : own i = []) (hposed : posed i = none) (hlost : lost i = []) :
    Polled i own posed lost (w.askPermit i k) := by
  have hn : Ledger own posed lost (w.note i .asked) := h.note hi _ rfl
  unfold World.askPermit
  simp only
  split
  · exact endWorker hn hi k rfl hown hposed
  · split
    · exact beginFetch (hn.setPermits _) hi k hown hposed hlost
    · exact put (hn.setPermits _) hi { k with stage := .queued } hown hposed

/-- A worker that is stopped loses what it holds. -/
theorem stopWorker (h : Ledger own posed lost w) {k : Worker} (hk : w.tasks[i]? = some (.worker k))
    (hposed : posed i = k.stage.held.head?) (hlost : lost i = []) :
    Polled i own posed (Function.update lost i (own i)) (w.stopWorker i k) ∧
      (w.stopWorker i k).stageAt i = some .cancelled := by
  have hi : i < w.tasks.length := (List.getElem?_eq_some_iff.1 hk).1
  -- Whatever it has to give back, it asks for nothing afterwards.
  have hend : ∀ w' : World, w'.tasks.length = w.tasks.length →
      Ledger own (Function.update posed i none) lost w' →
      Polled i own posed (Function.update lost i (own i)) (w'.endWorker i k .cancelled) ∧
        (w'.endWorker i k .cancelled).stageAt i = some .cancelled := by
    intro w' hlength hl
    have hi' : i < w'.tasks.length := hlength ▸ hi
    refine ⟨of_update (x := []) (y := none) ?_, stageAt_endWorker hi' k .cancelled⟩
    exact endWorker (hl.abandon hlost) hi' k rfl (Function.update_self i _ _)
      (Function.update_self i _ _)
  have hnone : k.stage.held = [] → Ledger own (Function.update posed i none) lost w := by
    intro hnil
    rw [hnil, List.head?_nil] at hposed
    rwa [← hposed, Function.update_eq_self]
  unfold World.stopWorker
  rcases hstage : k.stage with _ | _ | ⟨since, due, outcome⟩ | pending | due | _ | _
  case queued =>
    have hl := hnone (by rw [hstage]; rfl)
    refine hend _ (Apart.withPermits (i := i) w _ _).length (hl.withPermits _ _)
  case fetching =>
    have hl := hnone (by rw [hstage]; rfl)
    refine hend _ (Apart.withPermits (i := i) w _ _).length ((hl.withPermits _ _).note ?_ _ rfl)
    rwa [(Apart.withPermits (i := i) w _ _).length]
  case publishing =>
    exact hend _ (Quiet.cancelPublish (i := i) w).length (h.cancelPublish i)
  all_goals exact hend w rfl (hnone (by rw [hstage]; rfl))

/-- **A worker that is polled before a stop loses nothing.** -/
theorem pollWorker (h : Ledger own posed lost w) {k : Worker} (hk : w.tasks[i]? = some (.worker k))
    (hown : own i = k.stage.held) (hposed : posed i = k.stage.held.head?) (hlost : lost i = [])
    (hstop : w.signal.isStop = false) : Polled i own posed lost (w.pollWorker i k) := by
  have hi : i < w.tasks.length := (List.getElem?_eq_some_iff.1 hk).1
  have hs : w.stageAt i = some k.stage := stageAt_of_worker hk
  have hsame : Polled i own posed lost w := of_stage h hs hown hposed
  unfold World.pollWorker
  rw [hstop]
  simp only [Bool.false_eq_true, if_false]
  rcases hstage : k.stage with _ | _ | ⟨since, due, outcome⟩ | pending | due | _ | _
  all_goals rw [hstage] at hown hposed
  case ready => exact askPermit h hi k hown hposed hlost
  case queued =>
    simp only
    split
    · exact endWorker h hi k rfl hown hposed
    · split
      · rename_i permits _
        exact beginFetch (h.setPermits permits) hi k hown hposed hlost
      · exact hsame
  case fetching =>
    simp only
    split
    · exact finishFetch h hi k _ _ hown hposed hlost
    · exact hsame
  case publishing => exact publish h hi k hown hposed
  case sleeping =>
    simp only
    split
    · exact askPermit h hi k hown hposed hlost
    · exact hsame
  all_goals exact hsame

end Polled
/-- **The ledger is balanced:** what each worker holds is what its stage says, and only workers that
were stopped have lost anything. No task but a worker publishes. -/
structure Balanced (lost : Nat → List Event) (w : World) : Prop where
  ledger : Ledger w.heldBy w.posedBy lost w
  stopped : ∀ i, lost i ≠ [] → w.stageAt i = some .cancelled
  ours : ∀ (i : Nat) event stage, w.tasks[i]? ≠ some (Task.publisher event stage)

namespace Balanced

variable {lost lost' : Nat → List Event} {w w' : World} {i : Nat}

/-- What leaves the stages as they are. -/
theorem of_stages (h : Balanced lost w) (hledger : Ledger w.heldBy w.posedBy lost w')
    (hstages : ∀ j, w'.stageAt j = w.stageAt j)
    (hours : ∀ (i : Nat) event stage, w'.tasks[i]? ≠ some (Task.publisher event stage)) :
    Balanced lost w' := by
  have hheld : w'.heldBy = w.heldBy := funext fun j => heldBy_congr (hstages j)
  have hposed : w'.posedBy = w.posedBy := by
    funext j
    unfold posedBy
    rw [hheld]
  refine ⟨?_, fun j hj => ?_, hours⟩
  · rw [hheld, hposed]
    exact hledger
  · rw [hstages]
    exact h.stopped j hj

theorem of_same (h : Balanced lost w) (hbus : w'.bus = w.bus)
    (hadmission : w'.admission = w.admission) (hlog : w'.log = w.log)
    (htasks : w'.tasks = w.tasks) : Balanced lost w' := by
  refine h.of_stages (h.ledger.of_same hbus hadmission hlog ?_) (fun j => ?_) fun j => ?_
  · rw [htasks]
  · exact stageAt_congr (by rw [htasks])
  · rw [htasks]
    exact h.ours j

/-! ### Polls -/

theorem of_polled (h : Balanced lost w) (hp : Polled i w.heldBy w.posedBy lost' w')
    (ha : Apart i w w') (hlost : ∀ j, j ≠ i → lost' j = lost j)
    (hover : lost' i ≠ [] → w'.stageAt i = some .cancelled) : Balanced lost' w' := by
  have hstage : ∀ j, j ≠ i → w'.stageAt j = w.stageAt j := fun j hj => stageAt_congr (ha.others j hj)
  have hheld : Function.update w.heldBy i (w'.heldBy i) = w'.heldBy := by
    funext j
    by_cases hj : j = i
    · subst hj
      exact Function.update_self j _ _
    · rw [Function.update_of_ne hj]
      exact (heldBy_congr (hstage j hj)).symm
  have hposed : Function.update w.posedBy i (w'.posedBy i) = w'.posedBy := by
    funext j
    by_cases hj : j = i
    · subst hj
      exact Function.update_self j _ _
    · rw [Function.update_of_ne hj]
      exact congrArg List.head? (heldBy_congr (hstage j hj)).symm
  refine ⟨?_, fun j hj => ?_, fun j event stage ht => ?_⟩
  · have hl := hp.ledger
    rwa [hheld, hposed] at hl
  · by_cases hji : j = i
    · subst hji
      exact hover hj
    · rw [hstage j hji]
      exact h.stopped j (hlost j hji ▸ hj)
  · by_cases hji : j = i
    · subst hji
      obtain ⟨stage', hs⟩ := hp.stage
      unfold stageAt at hs
      rw [ht] at hs
      simp [Task.worker?] at hs
    · rw [ha.others j hji] at ht
      exact h.ours j event stage ht

/-- A worker that is polled gives up what it holds if it is to stop, and loses nothing else. -/
theorem pollWorker (h : Balanced lost w) {k : Worker} (hk : w.tasks[i]? = some (.worker k))
    (hover : k.stage.isOver = false) : ∃ lost', Balanced lost' (w.pollWorker i k) ∧
      ∀ j, lost' j = lost j ∨ (j = i ∧ w.signal.isStop = true ∧ lost' j = w.heldBy j) := by
  have hs := stageAt_of_worker hk
  have hlost : lost i = [] := by
    by_contra hne
    have hc := h.stopped i hne
    rw [hs] at hc
    simp [Option.some.inj hc, Stage.isOver] at hover
  have hown := heldBy_of_stageAt hs
  have hposed : w.posedBy i = k.stage.held.head? := congrArg List.head? hown
  have hapart := Apart.pollWorker (i := i) w k
  rcases hstop : w.signal.isStop with _ | _
  · have hp := Polled.pollWorker h.ledger hk hown hposed hlost hstop
    exact ⟨lost, h.of_polled hp hapart (fun _ _ => rfl) fun hne => absurd hlost hne,
      fun j => Or.inl rfl⟩
  · obtain ⟨hp, hc⟩ := Polled.stopWorker h.ledger hk hposed hlost
    have heq : w.pollWorker i k = w.stopWorker i k := by
      unfold World.pollWorker
      rw [hstop]
      rfl
    rw [heq] at hapart ⊢
    refine ⟨_, h.of_polled hp hapart (fun j hj => Function.update_of_ne hj _ _) fun _ => hc, ?_⟩
    intro j
    by_cases hj : j = i
    · subst hj
      exact Or.inr ⟨rfl, rfl, Function.update_self j _ _⟩
    · exact Or.inl (Function.update_of_ne hj _ _)

theorem pollConsumer (h : Balanced lost w) {c : Consumer} (hc : w.tasks[i]? = some (.consumer c)) :
    Balanced lost (w.pollConsumer i c) := by
  have hi : i < w.tasks.length := (List.getElem?_eq_some_iff.1 hc).1
  have hidle := Idle.pollConsumer (i := i) w c
  have hs : w.stageAt i = none := stageAt_of_other fun t ht => by
    rw [← Option.some.inj (hc.symm.trans ht)]
    rfl
  refine h.of_stages (h.ledger.idle hi hidle) (fun j => ?_) fun j event stage ht => ?_
  · by_cases hj : j = i
    · subst hj
      rw [hidle.stage hs, hs]
    · exact stageAt_congr (hidle.others j hj)
  · by_cases hj : j = i
    · subst hj
      exact h.ours j event stage (hidle.guest event stage ht)
    · rw [hidle.others j hj] at ht
      exact h.ours j event stage ht

theorem poll (h : Balanced lost w) (i : Nat) : ∃ lost', Balanced lost' (w.poll i) ∧
    ∀ j, lost' j = lost j ∨ (j = i ∧ w.signal.isStop = true ∧ lost' j = w.heldBy j) := by
  have hsame : ∃ lost', Balanced lost' w ∧
      ∀ j, lost' j = lost j ∨ (j = i ∧ w.signal.isStop = true ∧ lost' j = w.heldBy j) :=
    ⟨lost, h, fun j => Or.inl rfl⟩
  unfold World.poll
  rcases ht : w.tasks[i]? with _ | t
  · exact hsame
  · simp only
    split
    · exact hsame
    · rename_i hover
      rcases t with k | c | ⟨event, stage⟩
      · exact h.pollWorker ht (by simpa [Task.isOver] using hover)
      · exact ⟨lost, h.pollConsumer ht, fun j => Or.inl rfl⟩
      · exact absurd ht (h.ours i event stage)

/-! ### Moves -/

theorem wakeAll (h : Balanced lost w) (tasks : List Nat) : Balanced lost (w.wakeAll tasks) := by
  obtain ⟨more, hw, -⟩ := wakeAll_eq w tasks
  rw [hw]
  exact h.of_same rfl rfl rfl rfl

/-- An operation on the bus that no publish notices. -/
theorem withBus (h : Balanced lost w) {bus : Bus} {parties : List Wake}
    (hidle : Idle i w (w.withBus bus parties)) : Balanced lost (w.withBus bus parties) := by
  obtain ⟨more, hw⟩ := withBus_eq w bus parties
  rw [hw] at hidle ⊢
  have hbus := h.ledger.toCarries.of_shrinks (hidle.sound h.ledger.sound) hidle.pending
    hidle.stats hidle.contents
  exact h.of_stages ⟨hbus, h.ledger.toTale, h.ledger.known⟩ (fun _ => rfl) h.ours

/-- A task that is new holds nothing. -/
theorem spawn (h : Balanced lost w) {t : Task} (ht : ∀ k, t.worker? = some k → k.stage = .ready)
    (hours : ∀ event stage, t ≠ .publisher event stage) : Balanced lost (w.spawn t) := by
  have hstage := stageAt_spawn_new w ht
  have hheld : (w.spawn t).heldBy = w.heldBy := by
    funext j
    rcases hstage j with hs | ⟨-, hs, hs'⟩
    · exact heldBy_congr hs
    · rw [heldBy_of_none hs, heldBy_of_stageAt hs']
      rfl
  have hposed : (w.spawn t).posedBy = w.posedBy := by
    funext j
    unfold posedBy
    rw [hheld]
  obtain ⟨more, hw, -⟩ := spawn_eq w t
  refine ⟨?_, fun j hj => ?_, fun j event stage hs => ?_⟩
  · rw [hheld, hposed, hw]
    refine h.ledger.of_same rfl rfl rfl ?_
    simp
  · have hc := h.stopped j hj
    rcases hstage j with hs | ⟨-, hs, -⟩
    · rw [hs, hc]
    · simp [hs] at hc
  · rw [hw] at hs
    rcases List.mem_append.1 (List.mem_of_getElem? hs) with hmem | hmem
    · obtain ⟨i, hi⟩ := List.mem_iff_getElem?.1 hmem
      exact h.ours i event stage hi
    · exact hours event stage (List.mem_singleton.1 hmem).symm

theorem start (h : Balanced lost w) : Balanced lost w.start := by
  refine start_induction (P := Balanced lost) ?_ fun w k hk h => h.spawn ?_ ?_
  · exact h.of_same rfl rfl rfl rfl
  · intro k' hk'
    obtain rfl := Option.some.inj hk'
    exact hk
  · intro event stage
    simp

/-- **Every move keeps the ledger balanced,** and only the poll of a worker that is to stop loses
events, all that the worker held. -/
theorem act (h : Balanced lost w) {m : Move} (hm : m.isForeign = false) :
    ∃ lost', Balanced lost' (w.act m) ∧
      ∀ j, lost' j = lost j ∨ (m = .poll j ∧ w.signal.isStop = true ∧ lost' j = w.heldBy j) := by
  have hkeep : Balanced lost (w.act m) → ∃ lost', Balanced lost' (w.act m) ∧
      ∀ j, lost' j = lost j ∨ (m = .poll j ∧ w.signal.isStop = true ∧ lost' j = w.heldBy j) :=
    fun hb => ⟨lost, hb, fun j => Or.inl rfl⟩
  cases m with
  | poll task =>
    have hr : Balanced lost { w with ready := w.ready.erase task } := h.of_same rfl rfl rfl rfl
    obtain ⟨lost', hb, hall⟩ := hr.poll task
    refine ⟨lost', hb, fun j => (hall j).imp_right ?_⟩
    rintro ⟨rfl, hstop, hj⟩
    exact ⟨rfl, hstop, hj⟩
  | start => exact hkeep h.start
  | clock moment => exact hkeep (h.of_same rfl rfl rfl rfl)
  | fire moment =>
    have ht : Balanced lost
        { w with now := moment, timers := w.timers.filter fun t => moment < t.1 } :=
      h.of_same rfl rfl rfl rfl
    exact hkeep (ht.wakeAll _)
  | send value =>
    have hs : Balanced lost { w with signal.value := value } := h.of_same rfl rfl rfl rfl
    exact hkeep (hs.wakeAll _)
  | dropSignal =>
    have hs : Balanced lost { w with signal.isHeld := false } := h.of_same rfl rfl rfl rfl
    exact hkeep (hs.wakeAll _)
  | subscribe =>
    refine hkeep ?_
    simp only [World.act, World.subscribe?]
    rcases hs : w.bus.subscribe? with _ | ⟨queue, bus⟩
    · exact h
    · have hbus := h.ledger.toCarries.subscribe hs
      exact h.of_stages ⟨hbus, h.ledger.toTale, h.ledger.known⟩ (fun _ => rfl) h.ours
  | unsubscribe queue => exact hkeep (h.withBus (Idle.unsubscribe (i := 0) w queue))
  | take queue => exact hkeep (h.withBus (Idle.takeBus (i := 0) w queue))
  | drain queue => exact hkeep (h.withBus (Idle.drain (i := 0) w queue))
  | consume sink queue =>
    exact hkeep (h.spawn (fun k hk => by simp [Task.worker?] at hk) fun event stage => by simp)
  | post event => simp [Move.isForeign] at hm
  | offer key => simp [Move.isForeign] at hm
  | closeBus => exact hkeep (h.withBus (Idle.closeBus (i := 0) w))

theorem initial (limit : Nat) (capacity : Option Nat) (providers : List Provider) :
    Balanced (fun _ => []) (World.new limit capacity providers) := by
  have hheld : ∀ i, (World.new limit capacity providers).heldBy i = [] := fun i =>
    heldBy_of_none (by simp [stageAt, World.new])
  refine ⟨⟨⟨Bus.Sound.new capacity, fun p => ?_, rfl, fun id es hes => ?_⟩,
    ⟨rfl, fun key => ?_, fun i => ?_, fun i => ?_⟩, ?_⟩, fun i hi => absurd rfl hi,
    fun i event stage => ?_⟩
  · unfold posedBy
    rw [hheld]
    simp [World.new, Bus.new, Bus.pending, Gate.publication?]
  · simp [World.new, Bus.new, Bus.contents, Bus.queue?] at hes
  · simp [World.new, Admission.empty, eventsIn]
  · rw [hheld]
    rfl
  · exact List.Sublist.refl _
  · simp [World.new]
  · simp [World.new]

theorem exists_run (h : ∃ lost, Balanced lost w) {moves : List Move}
    (hours : ∀ m ∈ moves, m.isForeign = false) : ∃ lost, Balanced lost (w.run moves) := by
  induction moves generalizing w with
  | nil => exact h
  | cons m moves ih =>
    obtain ⟨lost, hb⟩ := h
    obtain ⟨lost', hb', -⟩ := hb.act (hours m List.mem_cons_self)
    exact ih ⟨lost', hb'⟩ fun m hm => hours m (List.mem_cons_of_mem _ hm)

/-- **The ledger is balanced at every moment.** What a worker has lost it held when it was polled
after a stop. -/
theorem run (h : Balanced (fun _ => []) w) {moves : List Move}
    (hours : ∀ m ∈ moves, m.isForeign = false) : ∃ lost, Balanced lost (w.run moves) ∧
      ∀ i, lost i ≠ [] → ∃ earlier later, moves = earlier ++ .poll i :: later ∧
        (w.run earlier).signal.isStop = true ∧ (w.run earlier).heldBy i = lost i := by
  induction moves using List.reverseRecOn with
  | nil => exact ⟨_, h, fun i hi => absurd rfl hi⟩
  | append_singleton moves m ih =>
    obtain ⟨lost, hb, hlost⟩ := ih fun m hm => hours m (List.mem_append_left _ hm)
    obtain ⟨lost', hb', hlost'⟩ := hb.act (hours m (List.mem_append_right _ List.mem_cons_self))
    refine ⟨lost', run_concat w moves m ▸ hb', fun i hi => ?_⟩
    rcases hlost' i with heq | ⟨rfl, hstop, hheld⟩
    · rw [heq] at hi
      obtain ⟨earlier, later, hm, hstop, hheld⟩ := hlost i hi
      refine ⟨earlier, later ++ [m], ?_, hstop, hheld.trans heq.symm⟩
      rw [hm, List.append_assoc, List.cons_append]
    · exact ⟨moves, [], rfl, hstop, hheld.symm⟩

end Balanced

/-- **No incident is published twice, and none is lost.** Whatever the fetches come to, and whenever
the tasks are polled and stopped: no key is published a second time. The store holds the keys of the
events of all fetches that came to their end and did not crash. Each of them was published, or is
held by one worker, or was given up by one that was polled after a stop, and is in one of these
places once. What a worker publishes comes to the queues of the bus in the order of its fetches. -/
theorem incidents_accounted (limit : Nat) (capacity : Option Nat) (providers : List Provider)
    {moves : List Move} (hours : ∀ m ∈ moves, m.isForeign = false) :
    let start := World.new limit capacity providers
    let w := start.run moves
    let tasks := List.range w.tasks.length
    (((eventsIn sent w.log).map Event.key).Nodup ∧
      w.bus.stats.published = (eventsIn sent w.log).length) ∧
    (∀ key, key ∈ w.admission.keys ↔ key ∈ (eventsIn found w.log).map Event.key) ∧
    ∃ lost : Nat → List Event,
      (w.admission.keys.Perm ((eventsIn sent w.log ++ tasks.flatMap w.heldBy ++
          tasks.flatMap lost).map Event.key) ∧
        (∀ p, p ∈ w.bus.pending ↔ (w.heldBy p.ticket).head? = some p.event) ∧
        ∀ i, lost i ≠ [] → w.stageAt i = some .cancelled ∧
          ∃ earlier later, moves = earlier ++ .poll i :: later ∧
            (start.run earlier).signal.isStop = true ∧ (start.run earlier).heldBy i = lost i) ∧
      ((∀ i, (eventsIn sent (ofTask i w.log) ++ w.heldBy i ++ lost i).Sublist
          (eventsIn found (ofTask i w.log))) ∧
        ∀ id es, w.bus.contents id = some es → es.Sublist (eventsIn sent w.log)) := by
  intro start w tasks
  obtain ⟨lost, h, hlost⟩ := (Balanced.initial limit capacity providers).run hours
  have hperm := h.ledger.keys_perm h.ledger.known
  refine ⟨⟨?_, h.ledger.counted⟩, h.ledger.normal, lost, ⟨hperm, h.ledger.pending, fun i hi => ?_⟩,
    fun i => ?_, h.ledger.queued⟩
  · have hnodup := hperm.nodup_iff.1 w.admission.nodup
    rw [List.append_assoc, List.map_append] at hnodup
    exact (List.nodup_append.1 hnodup).1
  · exact ⟨h.stopped i hi, hlost i hi⟩
  · rw [← h.ledger.split i]
    exact h.ledger.chosen i

/-- A worker finds three events, two of them with one key. It publishes the first, waits with the
second for room, and gives that up when it is stopped. -/
theorem incidents_accounted_of_stop :
    let event := fun id : String => (⟨id, "a", "", "", default⟩ : Event)
    let provider : Provider :=
      { name := "a", interval := 5
        fetch := fun _ => { outcome := .events [event "1", event "2", event "1"] } }
    let moves : List Move := [.subscribe, .start, .poll 0, .send true, .poll 0]
    let w := (World.new 1 (some 1) [provider]).run moves
    (∀ m ∈ moves, m.isForeign = false) ∧ (eventsIn sent w.log = [event "1"] ∧
      w.admission.keys = [(event "2").key, (event "1").key]) ∧
      ∃ lost : Nat → List Event, w.admission.keys.Perm ((eventsIn sent w.log ++
        (List.range w.tasks.length).flatMap w.heldBy ++
          (List.range w.tasks.length).flatMap lost).map Event.key) := by
  intro event provider moves
  have hours : ∀ m ∈ moves, m.isForeign = false := by decide
  obtain ⟨-, -, lost, ⟨hperm, -⟩, -⟩ := incidents_accounted 1 (some 1) [provider] hours
  exact ⟨hours, by decide, lost, hperm⟩

end World
end StatusRelay
