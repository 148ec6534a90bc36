/-
# Consumers who are served

A world whose subscriptions were all made before its workers were started, each for one consumer.
What such a consumer has received is what the record says that it took. Of the bus more or less is
known: while no consumer leaves, all of them get every event that the workers publish, in one order;
after a stop they leave one by one. What is known is given as `P`, which speaks of the published
events, of those that each consumer has received, and of the bus.
-/

import StatusRelay.Proofs.World.Incidents
import StatusRelay.Proofs.World.Shutdown
import StatusRelay.Proofs.World.Tally

namespace StatusRelay

/-- Whether a task was taken down. -/
def Task.isDead : Task → Bool
  | worker k => k.stage = .died
  | consumer c => c.stage = .died
  | publisher .. => false

theorem Task.isOver_of_isDead {t : Task} (h : t.isDead = true) : t.isOver = true := by
  cases t with
  | worker k =>
    have hs : k.stage = .died := by simpa [isDead] using h
    simp [isOver, hs, Stage.isOver]
  | consumer c =>
    have hs : c.stage = .died := by simpa [isDead] using h
    simp [isOver, hs, ConsumerStage.isOver]
  | publisher event stage => simp [isDead] at h

namespace World

open Occurrence (sent)

variable {w w' : World} {i n : Nat} {t t' : Task}

/-! ### Nobody dies -/

/-- No task was taken down. -/
def Alive (w : World) : Prop := ∀ t ∈ w.tasks, t.isDead = false

/-- **A task that is over stays as it is.** -/
theorem getElem?_act_of_over (m : Move) {t : Task} (ht : w.tasks[i]? = some t)
    (hover : t.isOver = true) : (w.act m).tasks[i]? = some t := by
  by_cases hp : ∃ j, m = .poll j
  · obtain ⟨j, rfl⟩ := hp
    by_cases hj : i = j
    · subst hj
      have hw : w.act (.poll i) = { w with ready := w.ready.erase i } :=
        poll_of_over fun t' ht' => by
          obtain rfl := Option.some.inj (ht.symm.trans ht')
          exact hover
      rw [hw]
      exact ht
    · exact ((Apart.poll { w with ready := w.ready.erase j } j).others i hj).trans ht
  · rw [(act_outside w (not_exists.1 hp)).tasks,
      List.getElem?_append_left (List.getElem?_eq_some_iff.1 ht).1]
    exact ht

/-- Who is alive has been so all the time. -/
theorem Alive.of_act {m : Move} (h : (w.act m).Alive) : w.Alive := by
  intro t ht
  obtain ⟨i, hi⟩ := List.mem_iff_getElem?.1 ht
  rcases hdead : t.isDead with _ | _
  · rfl
  · have hmem := List.mem_of_getElem? (getElem?_act_of_over m hi (Task.isOver_of_isDead hdead))
    exact hdead.symm.trans (h t hmem)

/-! ### What a consumer has received -/

/-- The events that a task has taken off a queue. -/
def takenBy (log : List Occurrence.Entry) (j : Nat) : List Event :=
  eventsIn Occurrence.received (ofTask j log)

theorem takenBy_cons (e : Occurrence.Entry) (log : List Occurrence.Entry) :
    takenBy (e :: log) =
      Function.update (takenBy log) e.task (takenBy log e.task ++ e.what.received) := by
  funext j
  unfold takenBy
  rw [eventsIn_ofTask_cons]
  by_cases hj : e.task = j
  · subst hj
    rw [if_pos rfl, Function.update_self]
  · rw [if_neg hj, Function.update_of_ne (Ne.symm hj), List.append_nil]

theorem takenBy_cons_of_nil {e : Occurrence.Entry} (h : e.what.received = [])
    (log : List Occurrence.Entry) : takenBy (e :: log) = takenBy log := by
  rw [takenBy_cons, h, List.append_nil, Function.update_eq_self]

/-! ### Consumers that are served -/

/-- **Each consumer is one of the first `n` tasks,** and has one subscription, with its own number.
What of the bus follows from what was published and received is given. -/
structure Served (n : Nat) (P : List Event → (Nat → List Event) → Bus → Prop) (w : World) :
    Prop where
  bus : P (eventsIn sent w.log) (takenBy w.log) w.bus
  consumers : ∀ (j : Nat) (c : Consumer), w.tasks[j]? = some (.consumer c) → j < n ∧ c.queue = j

namespace Served

variable {P : List Event → (Nat → List Event) → Bus → Prop}

theorem of_same (h : Served n P w) (hbus : w'.bus = w.bus) (htasks : w'.tasks = w.tasks)
    (hlog : w'.log = w.log) : Served n P w' := by
  refine ⟨?_, ?_⟩
  · rw [hbus, hlog]
    exact h.bus
  · rw [htasks]
    exact h.consumers

/-- **One task goes on.** -/
theorem set (h : Served n P w) (ht : w.tasks[i]? = some t) (htasks : w'.tasks = w.tasks.set i t')
    (hfresh : t'.fresh = t.fresh) (hbus : P (eventsIn sent w'.log) (takenBy w'.log) w'.bus) :
    Served n P w' := by
  refine ⟨hbus, fun j c hc => ?_⟩
  rw [htasks] at hc
  by_cases hj : j = i
  · subst hj
    rw [List.getElem?_set_self (List.getElem?_eq_some_iff.1 ht).1] at hc
    rw [Option.some.inj hc] at hfresh
    cases t with
    | consumer c' =>
      have hqueue := congrArg Consumer.queue (Task.consumer.inj hfresh)
      replace hqueue : c.queue = c'.queue := hqueue
      rw [hqueue]
      exact h.consumers j c' ht
    | worker k => simp [Task.fresh] at hfresh
    | publisher event stage => simp [Task.fresh] at hfresh
  · rw [List.getElem?_set_ne (Ne.symm hj)] at hc
    exact h.consumers j c hc

/-- What is told has nothing to do with it. -/
theorem append (h : P (eventsIn sent w.log) (takenBy w.log) w.bus)
    {more : List Occurrence.Entry} (hmore : ∀ e ∈ more, e.what.sent = [] ∧ e.what.received = []) :
    P (eventsIn sent (more ++ w.log)) (takenBy (more ++ w.log)) w.bus := by
  have htaken : takenBy (more ++ w.log) = takenBy w.log := funext fun j =>
    eventsIn_ofTask_append_of_nil j fun e he => (hmore e he).2
  rw [eventsIn_append_of_nil fun e he => (hmore e he).1, htaken]
  exact h

end Served
end World
end StatusRelay
