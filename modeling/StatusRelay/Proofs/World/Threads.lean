/-
# Several threads

On several threads the tasks of a world go on stride by stride, in any order. After a stop a task
that is polled finds the stop; but one that has looked at the signal before the stop makes one more
stride. So nothing can be said of when a task goes on, and the queue of tasks to poll does not
matter: a world on threads is `loose`.

What holds at every moment is less than on one thread. A worker may hold events of which it has
asked the bus for none, and a publish can be completed after the stop, when some of the consumers
have left.

| | the bus was asked for | subscriptions |
| --- | --- | --- |
| on one thread, before the stop | the first event of every worker that holds any | all |
| on threads, before the stop | the first event of some of these | all |
| on threads, after the stop | the first event of some of these | fewer and fewer |
-/

import StatusRelay.Proofs.Bus.Ebbing
import StatusRelay.Proofs.World.Strides

namespace StatusRelay

open Occurrence (sent)

/-- The events that a task has yet to publish. -/
def Task.held : Task → List Event
  | worker k => k.stage.held
  | _ => []

/-- What a stride does to a task is none of what it was made for. -/
theorem Task.Strides.fresh {i : Nat} {b b' : Bus} {s s' : Admission} {t t' : Task}
    {told : List Occurrence} (h : t.Strides i b s t' b' s' told) : t'.fresh = t.fresh := by
  cases h <;> rfl

namespace Bus.Carries

variable {posed : Nat → Option Event} {published : List Event} {b : Bus}

/-- A publish that is asked for late is asked for. -/
theorem pose {i : Nat} {e : Event} (h : b.Carries posed published)
    (hposed : ∀ e', posed i = some e' → e' = e) :
    (b.pose i e).Carries (Function.update posed i (some e)) published := by
  by_cases hi : i ∈ b.waiting
  · rw [pose_of_mem hi]
    rw [waiting_eq] at hi
    obtain ⟨p, hp, rfl⟩ := List.mem_map.1 hi
    have hasked := (h.pending p).1 hp
    rwa [← hposed p.event hasked, ← hasked, Function.update_eq_self]
  · rw [pose_of_notMem hi]
    refine h.request e (Option.eq_none_iff_forall_ne_some.2 fun e' he' => hi ?_)
    rw [waiting_eq]
    exact List.mem_map.2 ⟨⟨i, e'⟩, (h.pending ⟨i, e'⟩).2 he', rfl⟩

theorem take (h : b.Carries posed published) (id : Nat) :
    (b.take id).2.1.Carries posed published := by
  refine h.of_shrinks (h.sound.take id) (pending_take b id) ?_ (shrinks_take b id)
  rw [take_eq]

theorem unsubscribe (h : b.Carries posed published) (id : Nat) :
    (b.unsubscribe id).1.Carries posed published :=
  h.of_shrinks (h.sound.unsubscribe id) rfl rfl (shrinks_unsubscribe b id)

end Bus.Carries

namespace World

variable {w w' : World} {i n : Nat} {t t' : Task} {told : List Occurrence}

/-! ### Motions -/

/-- A world without its queue: any task may be the next. -/
def loose (w : World) : World := { w with ready := [] }

/-- What moves a world on whose tasks run on several threads. -/
inductive Motion where
  /-- A task that has looked at the signal and found no stop makes a stride. -/
  | stride (task : Nat)
  | move (m : Move)

namespace Motion

/-- Whether a motion is made while nobody looks at the signal: a stride, or time passes. -/
def isFree : Motion → Bool
  | stride _ => true
  | move (.clock _) => true
  | move (.fire _) => true
  | _ => false

/-- Whether nobody outside has to do with a motion. -/
def isInner : Motion → Bool
  | stride _ => true
  | move m => m.isInner

/-- The task that makes a stride. -/
def strider? : Motion → Option Nat
  | stride task => some task
  | move _ => none

theorem isInner_of_isFree {m : Motion} (h : m.isFree = true) : m.isInner = true := by
  rcases m with task | m
  · rfl
  · cases m <;> simp_all [isFree, isInner, Move.isInner]

end Motion

/-- The world after a motion. -/
def go (w : World) : Motion → World
  | .stride task => (w.stride task).loose
  | .move m => (w.act m).loose

/-- The world after motions. -/
def goAll (w : World) (motions : List Motion) : World := motions.foldl go w.loose

theorem loose_go (w : World) (m : Motion) : (w.go m).loose = w.go m := by
  cases m <;> rfl

theorem goAll_cons (w : World) (m : Motion) (motions : List Motion) :
    w.goAll (m :: motions) = (w.loose.go m).goAll motions := by
  unfold goAll
  rw [loose_go]
  rfl

theorem loose_goAll (w : World) (motions : List Motion) :
    (w.goAll motions).loose = w.goAll motions := by
  induction motions generalizing w with
  | nil => rfl
  | cons m motions ih =>
    rw [goAll_cons]
    exact ih _

theorem goAll_append (w : World) (motions more : List Motion) :
    w.goAll (motions ++ more) = (w.goAll motions).goAll more := by
  have hlast := loose_goAll w motions
  unfold goAll at hlast ⊢
  rw [List.foldl_append, hlast]

/-! ### Polls after a stop -/

/-- **A task has found the stop.** What it has asked of the bus it gives up. -/
structure Halted (i : Nat) (w w' : World) (t t' : Task) (told : List Occurrence) : Prop where
  found : w.tasks[i]? = some t
  going : t.isOver = false
  halts : t.Halts t' told
  tasks : w'.tasks = w.tasks.set i t'
  log : w'.log = told.map (⟨w.now, i, ·⟩) ++ w.log
  admission : w'.admission = w.admission
  signal : w'.signal = w.signal
  bus : t.held = [] ∧ w'.bus = w.bus ∨ (∃ k, t = .worker k) ∧ w'.bus = (w.bus.cancel i).2.1 ∨
    ∃ c, t = .consumer c ∧ w'.bus = (w.bus.unsubscribe c.queue).1

theorem halted_worker {k : Worker} (hk : w.tasks[i]? = some (.worker k))
    (hgoing : k.stage.isOver = false) :
    ∃ t' told, Halted i w (w.stopWorker i k) (.worker k) t' told := by
  have hends (hheld : k.stage.held = []) :
      Halted i w (w.endWorker i k .cancelled) (.worker k) (.worker { k with stage := .cancelled })
        [.ended] :=
    ⟨hk, hgoing, .worker k, rfl, rfl, rfl, rfl, Or.inl ⟨hheld, rfl⟩⟩
  unfold stopWorker
  cases hs : k.stage with simp only
  | queued =>
    obtain ⟨more, hw⟩ := withPermits_eq w (w.permits.leave i).1 (w.permits.leave i).2
    rw [hw]
    exact ⟨_, _, hk, hgoing, .worker k, rfl, rfl, rfl, rfl,
      Or.inl ⟨congrArg Stage.held hs, rfl⟩⟩
  | fetching since due outcome =>
    obtain ⟨permits, more, hw⟩ := releasePermit_same w
    rw [hw]
    exact ⟨_, _, hk, hgoing, .fetching k, rfl, rfl, rfl, rfl,
      Or.inl ⟨congrArg Stage.held hs, rfl⟩⟩
  | publishing pending =>
    obtain ⟨more, hw⟩ := withBus_eq w (w.bus.cancel i).2.1 (w.bus.cancel i).2.2
    simp only [cancelPublish, hw]
    exact ⟨_, _, hk, hgoing, .worker k, rfl, rfl, rfl, rfl, Or.inr (Or.inl ⟨⟨k, rfl⟩, rfl⟩)⟩
  | ready => exact ⟨_, _, hends (congrArg Stage.held hs)⟩
  | sleeping due => exact ⟨_, _, hends (congrArg Stage.held hs)⟩
  | cancelled => simp [hs, Stage.isOver] at hgoing
  | died => simp [hs, Stage.isOver] at hgoing

/-- **A poll after a stop** leaves everything as it is, or the task finds the stop. -/
theorem poll_stop_cases (hstop : w.signal.isStop = true)
    (hours : ∀ event stage, w.tasks[i]? ≠ some (.publisher event stage)) :
    w.poll i = w ∨ ∃ t t' told, Halted i w (w.poll i) t t' told := by
  by_cases hover : ∀ t, w.tasks[i]? = some t → t.isOver = true
  · exact Or.inl (poll_of_over hover)
  · push Not at hover
    obtain ⟨t, ht, hnot⟩ := hover
    have hgoing : t.isOver = false := Bool.eq_false_iff.2 hnot
    unfold poll
    rw [ht]
    simp only [hgoing, Bool.false_eq_true, if_false]
    cases t with
    | worker k =>
      simp only [pollWorker, hstop, if_true]
      exact Or.inr ⟨_, halted_worker ht hgoing⟩
    | consumer c =>
      simp only [pollConsumer, hstop, if_true]
      obtain ⟨more, heq⟩ := endConsumer_eq w i c .ended
      rw [heq]
      exact Or.inr ⟨_, _, _, ht, hgoing, .consumer c, rfl, rfl, rfl, rfl,
        Or.inr (Or.inr ⟨c, rfl, rfl⟩)⟩
    | publisher event stage => exact absurd ht (hours event stage)

/-- Nothing is told but that the task ends, and that it abandons a fetch. -/
theorem Halted.silent (hs : Halted i w w' t t' told)
    (hours : ∀ event stage, w.tasks[i]? ≠ some (.publisher event stage)) :
    ∀ what ∈ told, what.onTheWay = [] ∧ what.received = [] := by
  intro what hwhat
  have ht := hs.found
  rcases hs.halts.told_cases what hwhat with rfl | rfl | ⟨event, count, -, hfresh⟩
  · exact ⟨rfl, rfl⟩
  · exact ⟨rfl, rfl⟩
  · cases t with
    | publisher event stage => exact absurd ht (hours event stage)
    | worker k => simp [Task.fresh] at hfresh
    | consumer c => simp [Task.fresh] at hfresh

/-! ### What the tasks hold -/

theorem heldBy_of_getElem? (ht : w.tasks[i]? = some t) : w.heldBy i = t.held := by
  cases t with
  | worker k => exact heldBy_of_stageAt (stageAt_of_worker ht)
  | consumer c => exact heldBy_of_none (stageAt_of_other fun t ht' => by
      rw [← Option.some.inj (ht.symm.trans ht')]
      rfl)
  | publisher event stage => exact heldBy_of_none (stageAt_of_other fun t ht' => by
      rw [← Option.some.inj (ht.symm.trans ht')]
      rfl)

/-- Only one task has changed. -/
theorem heldBy_set (hi : i < w.tasks.length) (htasks : w'.tasks = w.tasks.set i t') :
    w'.heldBy = Function.update w.heldBy i t'.held := by
  funext j
  by_cases hj : j = i
  · subst hj
    rw [Function.update_self]
    refine heldBy_of_getElem? ?_
    rw [htasks, List.getElem?_set_self hi]
  · rw [Function.update_of_ne hj]
    refine heldBy_congr (stageAt_congr ?_)
    rw [htasks, List.getElem?_set_ne (Ne.symm hj)]

/-- **Every event that was found new is accounted for.** A worker that holds events may have asked
the bus to publish the first of them, and has asked for nothing else. -/
structure Kept (posed : Nat → Option Event) (lost : Nat → List Event) (w : World) : Prop where
  ledger : Ledger w.heldBy posed lost w
  first : ∀ i e, posed i = some e → w.posedBy i = some e
  stopped : ∀ i, lost i ≠ [] → w.stageAt i = some .cancelled
  ours : ∀ (i : Nat) event stage, w.tasks[i]? ≠ some (Task.publisher event stage)

namespace Kept

variable {posed posed' : Nat → Option Event} {lost lost' : Nat → List Event}

theorem of_balanced (h : Balanced lost w) : Kept w.posedBy lost w :=
  ⟨h.ledger, fun _ _ he => he, h.stopped, h.ours⟩

theorem of_same (h : Kept posed lost w) (hbus : w'.bus = w.bus)
    (hadmission : w'.admission = w.admission) (hlog : w'.log = w.log)
    (htasks : w'.tasks = w.tasks) : Kept posed lost w' := by
  have hstages (j : Nat) : w'.stageAt j = w.stageAt j := stageAt_congr (by rw [htasks])
  have hheld : w'.heldBy = w.heldBy := funext fun j => heldBy_congr (hstages j)
  refine ⟨?_, fun j e he => ?_, fun j hj => (hstages j).trans (h.stopped j hj), ?_⟩
  · rw [hheld]
    refine h.ledger.of_same hbus hadmission hlog ?_
    rw [htasks]
  · unfold posedBy
    rw [hheld]
    exact h.first j e he
  · rw [htasks]
    exact h.ours

/-- What a worker has asked the bus to publish is the first event that it holds. -/
theorem poses (h : Kept posed lost w) {e : Event} {es : List Event} (hheld : w.heldBy i = e :: es) :
    w.bus.Poses i (some e) := by
  intro p hp hpi
  have hfirst := h.first p.ticket p.event ((h.ledger.pending p).1 hp)
  unfold posedBy at hfirst
  rwa [hpi, hheld] at hfirst

/-- A worker has the bus publish the first event that it holds. -/
theorem carries_pose (h : Kept posed lost w) {e : Event} {es : List Event}
    (hheld : w.heldBy i = e :: es) : (w.bus.pose i e).Carries
      (Function.update posed i (some e)) (World.eventsIn sent w.log) := by
  refine h.ledger.toCarries.pose fun e' he' => ?_
  have hfirst := h.first i e' he'
  unfold posedBy at hfirst
  rw [hheld] at hfirst
  exact (Option.some.inj hfirst).symm

theorem posed_of_held (h : Kept posed lost w) (hheld : w.heldBy i = []) : posed i = none := by
  rcases hp : posed i with _ | e
  · rfl
  · have hfirst := h.first i e hp
    unfold posedBy at hfirst
    simp [hheld] at hfirst

/-- Who goes on has lost nothing. -/
theorem lost_of_going (h : Kept posed lost w) (ht : w.tasks[i]? = some t)
    (hgoing : t.isOver = false) : lost i = [] := by
  by_contra hne
  have hs := h.stopped i hne
  unfold stageAt at hs
  rw [ht] at hs
  cases t with
  | worker k =>
    have hstage : k.stage = .cancelled := Option.some.inj hs
    simp [Task.isOver, hstage, Stage.isOver] at hgoing
  | consumer c => simp [Task.worker?] at hs
  | publisher event stage => simp [Task.worker?] at hs

/-- **One task goes on:** it holds other events, and has asked for something else. -/
theorem set (h : Kept posed lost w) (ht : w.tasks[i]? = some t)
    (htasks : w'.tasks = w.tasks.set i t') (hours : ∀ event stage, t' ≠ .publisher event stage)
    (hlog : w'.log = told.map (⟨w.now, i, ·⟩) ++ w.log)
    (hcarries : w'.bus.Carries posed' (World.eventsIn sent w'.log))
    (htale : Tale w'.admission.keys (Function.update w.heldBy i t'.held) lost' w'.log)
    (hposed : ∀ j, j ≠ i → posed' j = posed j) (hlost : ∀ j, j ≠ i → lost' j = lost j)
    (hfirst : ∀ e, posed' i = some e → t'.held.head? = some e)
    (hstopped : lost' i ≠ [] → ∃ k, t' = .worker k ∧ k.stage = .cancelled) :
    Kept posed' lost' w' := by
  have hi : i < w.tasks.length := (List.getElem?_eq_some_iff.1 ht).1
  have hheld := heldBy_set hi htasks
  have hothers (j : Nat) (hj : j ≠ i) : w'.tasks[j]? = w.tasks[j]? := by
    rw [htasks, List.getElem?_set_ne (Ne.symm hj)]
  have hself : w'.tasks[i]? = some t' := by
    rw [htasks, List.getElem?_set_self hi]
  refine ⟨⟨hcarries, hheld ▸ htale, fun e he => ?_⟩, fun j e he => ?_, fun j hj => ?_,
    fun j event stage hj => ?_⟩
  · rw [htasks, List.length_set]
    rw [hlog] at he
    rcases List.mem_append.1 he with he | he
    · obtain ⟨what, -, rfl⟩ := List.mem_map.1 he
      exact hi
    · exact h.ledger.known e he
  · unfold posedBy
    by_cases hji : j = i
    · subst hji
      rw [heldBy_of_getElem? hself]
      exact hfirst e he
    · rw [hheld, Function.update_of_ne hji]
      exact h.first j e (hposed j hji ▸ he)
  · by_cases hji : j = i
    · subst hji
      obtain ⟨k, rfl, hs⟩ := hstopped hj
      rw [stageAt_of_worker hself, hs]
    · rw [stageAt_congr (hothers j hji)]
      exact h.stopped j (hlost j hji ▸ hj)
  · by_cases hji : j = i
    · subst hji
      exact hours event stage (Option.some.inj (hself.symm.trans hj))
    · exact h.ours j event stage (hothers j hji ▸ hj)

/-- What names no event, and what a consumer does, is nothing on the way of events. -/
theorem aside (h : Kept posed lost w) (ht : w.tasks[i]? = some t) (hgoing : t.isOver = false)
    (htasks : w'.tasks = w.tasks.set i t') (hlog : w'.log = told.map (⟨w.now, i, ·⟩) ++ w.log)
    (hcarries : w'.bus.Carries posed (eventsIn sent w.log))
    (hadmission : w'.admission = w.admission) (hsame : t'.held = t.held)
    (hours : ∀ event stage, t' ≠ .publisher event stage)
    (htold : ∀ what ∈ told, what.onTheWay = []) : Kept posed lost w' := by
  have hheld := heldBy_of_getElem? ht
  have hmore : ∀ e ∈ told.map (⟨w.now, i, ·⟩ : Occurrence → Occurrence.Entry),
      e.what.onTheWay = [] := List.forall_mem_map.2 htold
  refine h.set ht htasks hours hlog ?_ ?_ (fun _ _ => rfl) (fun _ _ => rfl) (fun e he => ?_)
    fun hne => absurd (h.lost_of_going ht hgoing) hne
  · rw [hlog, eventsIn_append_of_nil fun e he =>
      (Occurrence.views_of_onTheWay (hmore e he)).2.2]
    exact hcarries
  · rw [hlog, hadmission, hsame, ← hheld, Function.update_eq_self]
    exact h.ledger.toTale.append hmore
  · rw [hsame, ← hheld]
    exact h.first i e he

/-- **The first event that a worker holds is published.** -/
theorem sends (h : Kept posed lost w) (ht : w.tasks[i]? = some t) (hgoing : t.isOver = false)
    (htasks : w'.tasks = w.tasks.set i t') (hours : ∀ event stage, t' ≠ .publisher event stage)
    {e : Event} {es : List Event} (hfirst : w.heldBy i = e :: es) (hrest : t'.held = es)
    {name : String} {ticket count : Nat} (hholder : (w.bus.pose i e).gate.holder? = some i)
    (hdone : (w.bus.pose i e).drive.2.1 = some (ticket, count))
    (hbus : w'.bus = (w.bus.pose i e).drive.1) (hadmission : w'.admission = w.admission)
    (hlog : w'.log = [.published name e, .delivered e count].map (⟨w.now, i, ·⟩) ++ w.log) :
    Kept (Function.update posed i none) lost w' := by
  have hdriven := (h.carries_pose hfirst).drive_done hholder (Function.update_self i _ _) hdone
  rw [Function.update_idem] at hdriven
  have hcounted : ∀ x ∈ [(⟨w.now, i, .published name e⟩ : Occurrence.Entry)],
      x.what.onTheWay = [] := List.forall_mem_singleton.2 rfl
  have htale := (h.ledger.toTale.send hfirst w.now count).append hcounted
  refine h.set ht htasks hours hlog ?_ ?_ (fun j hj => Function.update_of_ne hj _ _)
    (fun _ _ => rfl) (fun e' he' => ?_) fun hne => absurd (h.lost_of_going ht hgoing) hne
  · rw [hlog, hbus]
    change Bus.Carries _ (eventsIn sent (_ :: _ :: w.log)) _
    rw [eventsIn_cons, eventsIn_cons]
    simpa [sent] using hdriven
  · rw [hlog, hadmission, hrest]
    exact htale
  · simp at he'

/-- **A stride keeps the ledger.** -/
theorem strode (h : Kept posed lost w) (hs : Strode i w w' t t' told) :
    ∃ posed', Kept posed' lost w' := by
  obtain ⟨ht, hgoing, hstrides, htasks, hlog, -, -⟩ := hs
  have hlost := h.lost_of_going ht hgoing
  have hheld := heldBy_of_getElem? ht
  have hstopped : lost i ≠ [] → ∃ k, t' = .worker k ∧ k.stage = .cancelled :=
    fun hne => absurd hlost hne
  generalize hbus : w'.bus = bus at hstrides
  generalize hadmission : w'.admission = admission at hstrides
  cases hstrides with
  | bare k stage told hnil hstage htold =>
    exact ⟨posed, h.aside ht hgoing htasks hlog (hbus ▸ h.ledger.toCarries) hadmission
      (hstage.trans hnil.symm) (by simp) fun what hwhat =>
        (Occurrence.views_of_isBare (htold what hwhat)).1⟩
  | filters k stage elapsed outcome told hnil hstage htold =>
    subst htold
    replace hnil : w.heldBy i = [] := hheld.trans hnil
    refine ⟨posed, h.set ht htasks (by simp) hlog ?_ ?_ (fun _ _ => rfl) (fun _ _ => rfl)
      (fun e he => ?_) hstopped⟩
    · rw [hlog, hbus]
      change w.bus.Carries posed (eventsIn sent (_ :: _ :: w.log))
      rw [eventsIn_cons, eventsIn_cons]
      simpa [sent] using h.ledger.toCarries
    · rw [hlog, hadmission]
      change Tale _ (Function.update w.heldBy i stage.held) lost (_ :: _ :: w.log)
      rw [hstage]
      exact h.ledger.toTale.find hnil hlost _ _ _ _ _ _
    · simp [h.posed_of_held hnil] at he
  | @waits k e es hs bus hb =>
    have hfirst : w.heldBy i = e :: es := hheld.trans (congrArg Stage.held hs)
    have hcarries := h.carries_pose hfirst
    refine ⟨Function.update posed i (some e), h.set ht htasks (by simp) hlog ?_ ?_
      (fun j hj => Function.update_of_ne hj _ _) (fun _ _ => rfl) (fun e' he' => ?_) hstopped⟩
    · rw [hlog, hbus]
      rcases hb with rfl | ⟨hnone, rfl⟩
      · exact hcarries
      · exact hcarries.drive_wait hnone
    · rw [hlog, hadmission, ← hheld, Function.update_eq_self]
      exact h.ledger.toTale
    · rw [Function.update_self] at he'
      rw [← hheld, hfirst]
      exact he'
  | @publishes k e es hs stage hstage ticket count hholder hdone =>
    exact ⟨_, h.sends ht hgoing htasks (by simp) (hheld.trans (congrArg Stage.held hs)) hstage
      hholder hdone hbus hadmission hlog⟩
  | takes c hs htake due outcome =>
    have hcarries := h.ledger.toCarries.take c.queue
    rw [htake, ← hbus] at hcarries
    exact ⟨posed, h.aside ht hgoing htasks hlog hcarries hadmission rfl (by simp)
      (List.forall_mem_singleton.2 rfl)⟩
  | leaves c hs hclosed =>
    exact ⟨posed, h.aside ht hgoing htasks hlog (hbus ▸ h.ledger.toCarries.unsubscribe c.queue)
      hadmission rfl (by simp) (List.forall_mem_singleton.2 rfl)⟩
  | handles c hs =>
    exact ⟨posed, h.aside ht hgoing htasks hlog (hbus ▸ h.ledger.toCarries) hadmission rfl
      (by simp) (List.forall_mem_singleton.2 rfl)⟩
  | perishes c hs =>
    exact ⟨posed, h.aside ht hgoing htasks hlog (hbus ▸ h.ledger.toCarries.unsubscribe c.queue)
      hadmission rfl (by simp) (List.forall_mem_cons.2 ⟨rfl, List.forall_mem_singleton.2 rfl⟩)⟩

/-- **A task that finds the stop loses what it holds.** -/
theorem halted (h : Kept posed lost w) (hs : Halted i w w' t t' told) :
    ∃ posed' lost', Kept posed' lost' w' := by
  have hmore : ∀ e ∈ told.map (⟨w.now, i, ·⟩ : Occurrence → Occurrence.Entry),
      e.what.onTheWay = [] :=
    List.forall_mem_map.2 fun what hwhat => (hs.silent (h.ours i) what hwhat).1
  obtain ⟨ht, hgoing, hhalts, htasks, hlog, hadmission, -, hbus⟩ := hs
  have hlost := h.lost_of_going ht hgoing
  have hheld := heldBy_of_getElem? ht
  have hours : ∀ event stage, t ≠ .publisher event stage := fun event stage heq =>
    h.ours i event stage (heq ▸ ht)
  have hsent : eventsIn sent (told.map (⟨w.now, i, ·⟩) ++ w.log) = eventsIn sent w.log :=
    eventsIn_append_of_nil fun e he => (Occurrence.views_of_onTheWay (hmore e he)).2.2
  have hcarries : w'.bus.Carries (Function.update posed i none) (World.eventsIn sent w.log) := by
    have hnone (hnil : t.held = []) : Function.update posed i none = posed := by
      rw [← h.posed_of_held (hheld.trans hnil), Function.update_eq_self]
    rcases hbus with ⟨hnil, hbus⟩ | ⟨-, hbus⟩ | ⟨c, rfl, hbus⟩
    · rw [hbus, hnone hnil]
      exact h.ledger.toCarries
    · rw [hbus]
      exact h.ledger.toCarries.cancel i
    · rw [hbus, hnone rfl]
      exact h.ledger.toCarries.unsubscribe c.queue
  refine ⟨Function.update posed i none, Function.update lost i (w.heldBy i),
    h.set ht htasks (fun event stage => ?_) hlog ?_ ?_ (fun j hj => Function.update_of_ne hj _ _)
      (fun j hj => Function.update_of_ne hj _ _) (fun e he => by simp at he) fun hne => ?_⟩
  · cases hhalts <;> simp_all
  · rw [hlog, hsent]
    exact hcarries
  · have hempty : t'.held = [] := by
      cases hhalts <;> rfl
    rw [hlog, hadmission, hempty]
    exact (h.ledger.toTale.abandon hlost).append hmore
  · rw [Function.update_self, hheld] at hne
    cases hhalts with
    | worker k => exact ⟨_, rfl, rfl⟩
    | fetching k => exact ⟨_, rfl, rfl⟩
    | consumer c => exact absurd rfl hne
    | delivers event stage count => exact absurd rfl hne
    | waits event stage => exact absurd rfl hne

end Kept

/-! ### Consumers that are served -/

namespace Served

variable {P : List Event → (Nat → List Event) → Bus → Prop}

/-- **A stride keeps consumers served,** unless one of them dies. -/
theorem strode (hP : Bus.Follows n P) (h : Served n P w) {posed : Nat → Option Event}
    {lost : Nat → List Event} (hk : Kept posed lost w) (hs : Strode i w w' t t' told)
    (halive : w'.Alive) : Served n P w' := by
  obtain ⟨ht, hgoing, hstrides, htasks, hlog, -, -⟩ := hs
  have hheld := heldBy_of_getElem? ht
  have hdead : t'.isDead = false := halive t' (by
    rw [htasks]
    exact List.mem_set (List.getElem?_eq_some_iff.1 ht).1 _)
  refine h.set ht htasks hstrides.fresh ?_
  rw [hlog]
  have haside (htold : ∀ what ∈ told, what.sent = [] ∧ what.received = []) :
      P (eventsIn sent (told.map (⟨w.now, i, ·⟩) ++ w.log))
        (takenBy (told.map (⟨w.now, i, ·⟩) ++ w.log)) w.bus :=
    append h.bus (List.forall_mem_map.2 htold)
  generalize w'.bus = bus at hstrides
  generalize w'.admission = admission at hstrides
  cases hstrides with
  | bare k stage told hnil hstage htold =>
    refine haside fun what hwhat => ?_
    obtain ⟨hway, hreceived⟩ := Occurrence.views_of_isBare (htold what hwhat)
    exact ⟨(Occurrence.views_of_onTheWay hway).2.2, hreceived⟩
  | filters k stage elapsed outcome told hnil hstage htold =>
    subst htold
    exact haside (List.forall_mem_cons.2 ⟨⟨rfl, rfl⟩, List.forall_mem_singleton.2 ⟨rfl, rfl⟩⟩)
  | @waits k e es hs bus hb =>
    have hposed := hP.pose h.bus i e
    rcases hb with rfl | ⟨hnone, rfl⟩
    · exact hposed
    · exact hP.drive_wait hposed hnone
  | @publishes k e es hs stage hstage ticket count hholder hdone =>
    have hasked := (hk.poses (hheld.trans (congrArg Stage.held hs))).pose (hP.sound h.bus)
    have hdriven := hP.drive_done (hP.pose h.bus i e) hasked hholder hdone
    change P (eventsIn sent (⟨w.now, i, .published k.name e⟩ ::
        ⟨w.now, i, .delivered e count⟩ :: w.log))
      (takenBy (⟨w.now, i, .published k.name e⟩ :: ⟨w.now, i, .delivered e count⟩ :: w.log)) _
    rw [eventsIn_cons, eventsIn_cons, takenBy_cons_of_nil rfl, takenBy_cons_of_nil rfl]
    exact (List.append_nil (eventsIn sent w.log ++ [e])).symm ▸ hdriven
  | @takes c hs e bus parties htake due outcome =>
    obtain ⟨hi, hqueue⟩ := h.consumers i c ht
    rw [hqueue] at htake
    have hnext := hP.take h.bus hi (e := e) (by rw [htake])
    rw [htake] at hnext
    change P (eventsIn sent (⟨w.now, i, .taken e⟩ :: w.log))
      (takenBy (⟨w.now, i, .taken e⟩ :: w.log)) bus
    rw [eventsIn_cons, takenBy_cons]
    exact (List.append_nil (eventsIn sent w.log)).symm ▸ hnext
  | leaves c hs hclosed =>
    obtain ⟨hi, hqueue⟩ := h.consumers i c ht
    rw [hqueue] at hclosed ⊢
    have hended : ∀ x ∈ [(⟨w.now, i, .ended⟩ : Occurrence.Entry)],
        x.what.sent = [] ∧ x.what.received = [] := List.forall_mem_singleton.2 ⟨rfl, rfl⟩
    exact append (w := { w with bus := (w.bus.unsubscribe i).1 }) (hP.leave h.bus hi hclosed) hended
  | handles c hs => exact haside (List.forall_mem_singleton.2 ⟨rfl, rfl⟩)
  | perishes c hs => simp [Task.isDead] at hdead

/-- **A task that finds the stop** leaves those who are still there served. -/
theorem halted {prompt : Nat} (h : Served n (Bus.Ebbing n prompt) w)
    (hours : ∀ (i : Nat) event stage, w.tasks[i]? ≠ some (Task.publisher event stage))
    (hs : Halted i w w' t t' told) : Served n (Bus.Ebbing n prompt) w' := by
  have hsilent := hs.silent (hours i)
  obtain ⟨ht, hgoing, hhalts, htasks, hlog, -, -, hbus⟩ := hs
  have hfresh : t'.fresh = t.fresh := by
    cases hhalts <;> rfl
  have hebbing : Bus.Ebbing n prompt (eventsIn sent w.log) (takenBy w.log) w'.bus := by
    rcases hbus with ⟨-, hbus⟩ | ⟨-, hbus⟩ | ⟨c, -, hbus⟩
    · rw [hbus]
      exact h.bus
    · rw [hbus]
      exact h.bus.cancel i
    · rw [hbus]
      exact h.bus.unsubscribe c.queue
  refine h.set ht htasks hfresh ?_
  rw [hlog]
  refine append (w := { w with bus := w'.bus }) hebbing (List.forall_mem_map.2 fun what hwhat => ?_)
  obtain ⟨hway, hreceived⟩ := hsilent what hwhat
  exact ⟨(Occurrence.views_of_onTheWay hway).2.2, hreceived⟩

end Served

end World
end StatusRelay
