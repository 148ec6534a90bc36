/-
# The loop of a consumer

A consumer is started for a queue that is its own. Whatever happens after that, in whatever order,
it takes the events one after another as they were placed in the queue, and it is done with each
before it takes the next. Nothing that becomes of an event ends the loop, and a crash of its sink
counts as a failure.

| what happens | and then |
| --- | --- |
| an event is placed in the queue, the bus goes, a stop is signalled | the consumer is polled |
| the consumer is polled after a stop | it ends, and the event that its sink deals with is cut off |
| it is polled when the bus has gone, and is done with all events | it ends |
| anything else | it goes on |
-/

import StatusRelay.Proofs.World.Exchange
import StatusRelay.Proofs.World.Handling

namespace StatusRelay
namespace World

variable {w w' start : World} {i queue : Nat} {sink : Sink} {moves : List Move}

/-! ### What is placed in a queue -/

/-- The events that wait in a queue. -/
def held (queue : Nat) (w : World) : List Event := (w.bus.contents queue).getD []

/-- The events that moves place in a queue, behind those that wait there. -/
def arrivals (queue : Nat) (w : World) : List Move → List Event
  | [] => []
  | m :: moves =>
    ((w.act m).held queue).drop (w.held queue).length ++ (w.act m).arrivals queue moves

theorem arrivals_append (w : World) (moves more : List Move) :
    w.arrivals queue (moves ++ more) =
      w.arrivals queue moves ++ (w.run moves).arrivals queue more := by
  induction moves generalizing w with
  | nil => rfl
  | cons m moves ih =>
    rw [List.cons_append, arrivals, ih, arrivals, List.append_assoc]
    rfl

theorem arrivals_concat (w : World) (moves : List Move) (m : Move) :
    w.arrivals queue (moves ++ [m]) = w.arrivals queue moves ++
      (((w.run moves).act m).held queue).drop ((w.run moves).held queue).length := by
  rw [arrivals_append, arrivals, arrivals, List.append_nil]

theorem onward_concat (w : World) (moves : List Move) (m : Move) :
    w.onward (moves ++ [m]) = (w.onward moves && m.goesOn (w.run moves)) := by
  induction moves generalizing w with
  | nil => simp [onward, run]
  | cons m' moves ih =>
    rw [List.cons_append, onward, ih, onward, Bool.and_assoc]
    rfl

/-- Nothing arrives while events are taken. -/
theorem arrivals_of_drop {n : Nat}
    (h : w'.bus.contents queue = (w.bus.contents queue).map (List.drop n)) :
    (w'.held queue).drop (w.held queue).length = [] := by
  unfold held
  rw [h]
  rcases w.bus.contents queue with _ | es
  · rfl
  · exact List.drop_eq_nil_of_le (by simp)

/-! ### Others move -/

/-- What others do is not told of a task. -/
theorem story_act (w : World) {m : Move} (hm : m ≠ .poll i) : (w.act m).story i = w.story i := by
  by_cases hp : ∃ j, m = .poll j
  · obtain ⟨j, rfl⟩ := hp
    have hj : i ≠ j := fun h => hm (congrArg Move.poll h.symm)
    unfold story
    rw [show (w.act (.poll j)).log = ({ w with ready := w.ready.erase j }.poll j).log from rfl,
      ofTask_poll_ne { w with ready := w.ready.erase j } hj]
  · exact story_congr i (act_outside w (not_exists.1 hp)).log

section Stands

variable {c : Consumer} {placed done : List Event} {current : Option Event}

/-- It does not matter which tasks are going to be polled. -/
theorem Serving.erase (h : Serving i sink queue placed w c done current) (j : Nat) :
    Serving i sink queue placed { w with ready := w.ready.erase j } c done current :=
  ⟨h.task, h.progress, h.stage, h.queued⟩

/-- **A consumer that goes on.** Unless it is going to be polled it was not told to stop, and has
either nothing to do while more can come, or an event that its sink deals with until a timer
fires. -/
structure Attends (start : World) (i : Nat) (s : Sink) (queue : Nat) (waiting : List Event)
    (moves : List Move) (c : Consumer) (done : List Event) (current : Option Event) : Prop where
  serving : Serving i s queue (waiting ++ start.arrivals queue moves) (start.run moves) c done
    current
  rests : i ∉ (start.run moves).ready → (start.run moves).signal.isStop = false ∧
    (current = none → (start.run moves).bus.contents queue = some [] ∧
      (start.run moves).bus.isGone = false)
  awaits : start.onward moves = true → ∀ e due outcome, c.stage = .handling e due outcome →
    Awaits i due (start.run moves)

/-- **How a consumer has come to its end:** when it was polled, either it had been told to stop, or
the bus had gone and it became done with all events that had been placed in its queue. -/
def CameToEnd (start : World) (i : Nat) (s : Sink) (queue : Nat) (waiting : List Event)
    (moves : List Move) (done : List Event) (current : Option Event) : Prop :=
  ∃ earlier later, moves = earlier ++ .poll i :: later ∧
    let v := start.run earlier
    let placed := waiting ++ start.arrivals queue earlier
    (v.signal.isStop = true ∧ ∃ c, Serving i s queue placed v c done current) ∨
      (v.signal.isStop = false ∧ v.bus.isGone = true ∧ current = none ∧ done = placed)

theorem CameToEnd.concat {waiting : List Event}
    (h : CameToEnd start i sink queue waiting moves done current) (m : Move) :
    CameToEnd start i sink queue waiting (moves ++ [m]) done current := by
  obtain ⟨earlier, later, rfl, h⟩ := h
  exact ⟨earlier, later ++ [m], by simp, h⟩

theorem Ended.act (h : Ended i sink w c done current) (m : Move) :
    Ended i sink (w.act m) c done current := by
  have hover : (Task.consumer c).isOver = true := by
    simp [Task.isOver, h.stage, ConsumerStage.isOver]
  refine ⟨getElem?_act_of_over m h.task hover, h.sink, h.stage, h.tally, ?_⟩
  rw [← h.told]
  by_cases hm : m = .poll i
  · subst hm
    have hw : w.act (.poll i) = { w with ready := w.ready.erase i } :=
      poll_of_over fun t ht => by
        obtain rfl := Option.some.inj (h.task.symm.trans ht)
        exact hover
    rw [hw]
    rfl
  · exact story_act w hm

/-- **How a consumer stands** after some moves. -/
inductive Stands (start : World) (i : Nat) (s : Sink) (queue : Nat) (waiting : List Event)
    (moves : List Move) : Prop
  | on (c : Consumer) (done : List Event) (current : Option Event)
    (attends : Attends start i s queue waiting moves c done current)
  | off (c : Consumer) (done : List Event) (current : Option Event)
    (ended : Ended i s (start.run moves) c done current)
    (finished : CameToEnd start i s queue waiting moves done current)

namespace Attends

variable {waiting : List Event} (h : Attends start i sink queue waiting moves c done current)

include h

/-- A poll that comes too early changes nothing. -/
theorem polled_early {e : Event} {due : Nat} {outcome : HandlingOutcome}
    (hstage : c.stage = .handling e due outcome) (hlate : (start.run moves).now < due)
    (hgo : (start.run moves).signal.isStop = false)
    (hsame : (start.run moves).act (.poll i) =
      { start.run moves with ready := (start.run moves).ready.erase i }) :
    Attends start i sink queue waiting (moves ++ [.poll i]) c done current := by
  obtain ⟨serving, -, awaits⟩ := h
  refine ⟨?_, fun _ => ?_, fun hon e' due' outcome' hstage' => ?_⟩
  · rw [arrivals_concat, run_concat, hsame]
    have hnothing : (({ start.run moves with ready := (start.run moves).ready.erase i } :
        World).held queue).drop ((start.run moves).held queue).length = [] := List.drop_length
    rw [hnothing, List.append_nil]
    exact serving.erase i
  · rw [run_concat, hsame]
    refine ⟨hgo, fun hnone => ?_⟩
    subst hnone
    exact absurd (serving.stage.symm.trans hstage) (by simp)
  · rw [onward_concat, Bool.and_eq_true] at hon
    rw [run_concat, hsame]
    obtain ⟨-, rfl, -⟩ := ConsumerStage.handling.inj (hstage.symm.trans hstage')
    rcases awaits hon.1 e due outcome hstage with htimer | ⟨-, hdue⟩
    · exact Or.inl htimer
    · exact absurd hdue (Nat.not_le_of_gt hlate)

/-- **A poll** leads the consumer on, or to its end. -/
theorem polled (hdrop : ∀ n e, (sink.handle n e).outcome ≠ .deadly) :
    Stands start i sink queue waiting (moves ++ [.poll i]) := by
  have serving := h.serving
  have hw := run_concat start moves (.poll i)
  rcases hgo : (start.run moves).signal.isStop with _ | _
  · rcases (serving.erase i).poll_go hdrop hgo with ⟨e, due, outcome, hstage, hlate, hsame⟩ | hturns
    · exact .on c done current (h.polled_early hstage hlate hgo hsame)
    · cases hturns with
      | waits c done current n serving' waits queued =>
        have hnothing : (((start.run moves).act (.poll i)).held queue).drop
          ((start.run moves).held queue).length = [] := arrivals_of_drop queued
        refine .on c done current ⟨?_, fun _ => ?_, fun _ e due outcome hstage => ?_⟩
        · rw [arrivals_concat, hw, hnothing, List.append_nil]
          exact serving'
        · rw [hw, signal_act]
          exact ⟨hgo, waits.1⟩
        · rw [hw]
          exact Or.inl (waits.2 e due outcome hstage)
      | ends c ended gone left =>
        exact .off c _ none (hw ▸ ended) ⟨moves, [], rfl, Or.inr ⟨hgo, gone, rfl, rfl⟩⟩
  · have hended := ((serving.erase i).poll_stop hgo).1
    refine .off { c with stage := .ended } done current ?_
      ⟨moves, [], rfl, Or.inl ⟨hgo, c, serving⟩⟩
    rw [hw]
    exact hended

/-- **The consumer ends when it is polled next,** and it is going to be polled, once a stop is
signalled, or the bus has gone and nothing is left to do. -/
theorem ends (hend : (start.run moves).signal.isStop = true ∨ current = none ∧
      (start.run moves).bus.contents queue = some [] ∧ (start.run moves).bus.isGone = true) :
    i ∈ (start.run moves).ready ∧ ∃ c', ((start.run moves).act (.poll i)).tasks[i]? =
      some (.consumer c') ∧ c'.stage = .ended := by
  have serving := h.serving.erase i
  refine ⟨?_, ?_⟩
  · by_contra hi
    obtain ⟨hgo, hempty⟩ := h.rests hi
    rcases hend with hstop | ⟨hnone, -, hgone⟩
    · exact Bool.false_ne_true (hgo.symm.trans hstop)
    · exact Bool.false_ne_true ((hempty hnone).2.symm.trans hgone)
  · rcases hend with hstop | ⟨rfl, hempty, hgone⟩
    · exact ⟨_, (serving.poll_stop hstop).1.task, rfl⟩
    · have hi := (List.getElem?_eq_some_iff.1 serving.task).1
      have hended := (ended_endConsumer hi serving.progress).1.task
      rw [← serving.poll_closed hempty hgone] at hended
      exact ⟨_, hended, rfl⟩

end Attends

end Stands

/-! ### The beginning -/

end World
end StatusRelay
