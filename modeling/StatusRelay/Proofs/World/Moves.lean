/-
# Moves of a world

Whatever happens to a world is a run of moves: tasks are polled, time passes, and somebody outside
starts tasks, gives or lets go of the stop signal, and deals with the bus. The moves stand in any
order. So a task can be polled before others that came earlier, or for nothing, and a timer can
fire late. What holds after every run holds a fortiori of the worlds that `settle`, `advance` and
`runUntil` come to. These only make inner moves, with which nobody outside has to do: a world that
`Reaches` another by itself gets there by such a run.

| part of the world | changed by |
| --- | --- |
| the queue of tasks to poll | `wakeAll`, `wakeParties`, `setTimer`: it grows |
| the permits, the admitted keys, the providers | polls of workers |
| the record | grows, at its head |
-/

import StatusRelay.Monitor

namespace StatusRelay
namespace World

/-- Something that moves a world on. -/
inductive Move where
  | start
  /-- Polls a task, whether it is in the queue or not. -/
  | poll (task : Nat)
  /-- Goes to a moment without a look at the timers. -/
  | clock (moment : Nat)
  /-- Goes to a moment and has those polled whose timers are due. -/
  | fire (moment : Nat)
  | send (value : Bool)
  | dropSignal
  | subscribe
  | unsubscribe (queue : Nat)
  | take (queue : Nat)
  | drain (queue : Nat)
  | consume (sink : Sink) (queue : Nat)
  | post (event : Event)
  /-- Offers a key to the store from outside. -/
  | offer (key : Key)
  | closeBus

/-- Whether a move publishes an event or offers a key that no worker has fetched. -/
def Move.isForeign : Move → Bool
  | post _ => true
  | offer _ => true
  | _ => false

/-- Whether nobody outside has to do with a move: a task is polled, or time passes. -/
def Move.isInner : Move → Bool
  | poll _ => true
  | clock _ => true
  | fire _ => true
  | _ => false

/-- The world after a move. -/
def act (w : World) : Move → World
  | .start => w.start
  | .poll task => { w with ready := w.ready.erase task }.poll task
  | .clock moment => { w with now := moment }
  | .fire moment => w.fire moment
  | .send value => w.send value
  | .dropSignal => w.dropSignal
  | .subscribe =>
    match w.subscribe? with
    | some (_, w) => w
    | none => w
  | .unsubscribe queue => w.unsubscribe queue
  | .take queue => (w.take queue).2
  | .drain queue => (w.drain queue).2
  | .consume sink queue => w.consume sink queue
  | .post event => w.post event
  | .offer key => { w with admission := (w.admission.offer key).2 }
  | .closeBus => w.closeBus

/-- The world after moves. -/
def run (w : World) (moves : List Move) : World := moves.foldl act w

theorem run_append (w : World) (moves more : List Move) :
    w.run (moves ++ more) = (w.run moves).run more := List.foldl_append

theorem run_concat (w : World) (moves : List Move) (m : Move) :
    w.run (moves ++ [m]) = (w.run moves).act m := run_append w moves [m]

/-! ### Going on is a run of moves -/

theorem step_eq (w : World) : w.step = w ∨ ∃ task, w.step = w.act (.poll task) := by
  unfold step
  split
  · exact Or.inl rfl
  · rename_i task rest h
    refine Or.inr ⟨task, ?_⟩
    change _ = ({ w with ready := w.ready.erase task } : World).poll task
    rw [h, List.erase_cons_head]

/-- **A world settles by polls.** -/
theorem settleAt_eq (w : World) (most : Nat) :
    ∃ tasks : List Nat, w.settleAt most = w.run (tasks.map .poll) := by
  induction most generalizing w with
  | zero => exact ⟨[], rfl⟩
  | succ most ih =>
    unfold settleAt
    split
    · exact ⟨[], rfl⟩
    · rcases step_eq w with h | ⟨task, h⟩
      · rw [h]
        exact ih w
      · obtain ⟨tasks, htasks⟩ := ih (w.act (.poll task))
        rw [h, htasks]
        exact ⟨task :: tasks, rfl⟩

/-- Whether a world comes out of another by itself: tasks are polled, and time passes. -/
def Reaches (w w' : World) : Prop :=
  ∃ moves : List Move, (∀ m ∈ moves, m.isInner = true) ∧ w.run moves = w'

namespace Reaches

theorem refl (w : World) : Reaches w w := ⟨[], by simp, rfl⟩

theorem act (w : World) {m : Move} (hm : m.isInner = true) : Reaches w (w.act m) :=
  ⟨[m], by simpa using hm, rfl⟩

theorem trans {a b c : World} (h : Reaches a b) (h' : Reaches b c) : Reaches a c := by
  obtain ⟨moves, hmoves, rfl⟩ := h
  obtain ⟨more, hmore, rfl⟩ := h'
  refine ⟨moves ++ more, fun m hm => ?_, run_append a moves more⟩
  exact (List.mem_append.1 hm).elim (hmoves m) (hmore m)

theorem polls (w : World) (tasks : List Nat) : Reaches w (w.run (tasks.map .poll)) := by
  refine ⟨_, fun m hm => ?_, rfl⟩
  obtain ⟨task, -, rfl⟩ := List.mem_map.1 hm
  rfl

theorem settle (w : World) : Reaches w w.settle := by
  obtain ⟨tasks, h⟩ := settleAt_eq w patience
  unfold World.settle
  rw [h]
  exact polls w tasks

theorem clock (w : World) (moment : Nat) : Reaches w { w with now := moment } :=
  act w (m := .clock moment) rfl

theorem skip (w : World) (next : Nat) : Reaches w (w.skip next) :=
  (act w (m := .fire (max w.now next)) rfl).trans (settle _)

theorem advanceAt (w : World) (moment most : Nat) : Reaches w (w.advanceAt moment most) := by
  induction most generalizing w with
  | zero => exact clock w moment
  | succ most ih =>
    unfold World.advanceAt
    split
    · exact clock w moment
    · split
      · exact (skip w _).trans (ih _)
      · exact clock w moment

/-- **Time passes by moves.** -/
theorem advance (w : World) (ms : Nat) : Reaches w (w.advance ms) :=
  (settle w).trans (advanceAt _ _ _)

theorem runUntilAt (w : World) (isOver : World → Bool) (moment : Option Nat) (most : Nat) :
    Reaches w (w.runUntilAt isOver moment most) := by
  induction most generalizing w with
  | zero => exact refl w
  | succ most ih =>
    unfold World.runUntilAt
    split
    · exact refl w
    · split
      · exact refl w
      · exact clock w _
      · exact (skip w _).trans (ih _)
      · split
        · exact (skip w _).trans (ih _)
        · exact clock w _

theorem runUntil (w : World) (isOver : World → Bool) (moment : Option Nat) :
    Reaches w (w.runUntil isOver moment) :=
  (settle w).trans (runUntilAt _ _ _ _)

end Reaches

/-- **A run of a monitor goes on by itself,** up to its stop. -/
theorem close_eq (w : World) (moment : Option Nat) :
    ∃ w', Reaches w w' ∧ Monitor.close w moment = w'.stop.settle := by
  unfold Monitor.close
  split
  · exact ⟨w, Reaches.refl w, rfl⟩
  · exact ⟨_, Reaches.runUntil w _ _, rfl⟩

/-! ### What is woken -/

theorem wake_eq (w : World) (task : Nat) :
    ∃ more, w.wake task = { w with ready := w.ready ++ more } ∧ task ∈ w.ready ++ more := by
  unfold wake
  split
  · rename_i h
    exact ⟨[], by rw [List.append_nil], by simpa using h⟩
  · exact ⟨[task], rfl, by simp⟩

/-- **Tasks that are woken come to the queue,** and nothing else changes. -/
theorem wakeAll_eq (w : World) (tasks : List Nat) :
    ∃ more, w.wakeAll tasks = { w with ready := w.ready ++ more } ∧
      ∀ task ∈ tasks, task ∈ w.ready ++ more := by
  induction tasks generalizing w with
  | nil => exact ⟨[], by rw [List.append_nil]; rfl, by simp⟩
  | cons task tasks ih =>
    obtain ⟨more, hw, hmem⟩ := wake_eq w task
    obtain ⟨more', hw', hmem'⟩ := ih (w.wake task)
    have hall : w.wakeAll (task :: tasks) = (w.wake task).wakeAll tasks := rfl
    rw [hw] at hw' hmem'
    refine ⟨more ++ more', ?_, ?_⟩
    · rw [hall, hw, hw', List.append_assoc]
    · intro x hx
      rw [← List.append_assoc]
      rcases List.mem_cons.1 hx with rfl | hx
      · exact List.mem_append_left _ hmem
      · exact hmem' x hx

theorem wakeParties_eq (w : World) (parties : List Wake) :
    ∃ more, w.wakeParties parties = { w with ready := w.ready ++ more } := by
  induction parties generalizing w with
  | nil => exact ⟨[], by rw [List.append_nil]; rfl⟩
  | cons party parties ih =>
    have hone : ∃ more, w.wakeParties [party] = { w with ready := w.ready ++ more } := by
      rcases party with ticket | queue
      · obtain ⟨more, h, -⟩ := wake_eq w ticket
        exact ⟨more, h⟩
      · obtain ⟨more, h, -⟩ := wakeAll_eq w (w.receivers queue)
        exact ⟨more, h⟩
    obtain ⟨more, h⟩ := hone
    obtain ⟨more', h'⟩ := ih { w with ready := w.ready ++ more }
    refine ⟨more ++ more', ?_⟩
    rw [← List.append_assoc, ← h', ← h]
    rfl

theorem withBus_eq (w : World) (bus : Bus) (parties : List Wake) :
    ∃ more, w.withBus bus parties = { w with bus := bus, ready := w.ready ++ more } :=
  wakeParties_eq { w with bus := bus } parties

theorem withPermits_eq (w : World) (permits : Permits) (given : Option Nat) : ∃ more,
    w.withPermits permits given = { w with permits := permits, ready := w.ready ++ more } := by
  obtain ⟨more, h, -⟩ := wakeAll_eq { w with permits := permits } given.toList
  exact ⟨more, h⟩

/-- A permit that goes back wakes another task at most. -/
theorem releasePermit_same (w : World) : ∃ permits more,
    w.releasePermit = { w with permits := permits, ready := w.ready ++ more } := by
  obtain ⟨more, h⟩ := withPermits_eq w w.permits.release.1 w.permits.release.2
  exact ⟨_, more, h⟩

theorem tasks_releasePermit (w : World) : w.releasePermit.tasks = w.tasks := by
  obtain ⟨permits, more, h⟩ := releasePermit_same w
  rw [h]

theorem log_releasePermit (w : World) : w.releasePermit.log = w.log := by
  obtain ⟨permits, more, h⟩ := releasePermit_same w
  rw [h]

theorem bus_releasePermit (w : World) : w.releasePermit.bus = w.bus := by
  obtain ⟨permits, more, h⟩ := releasePermit_same w
  rw [h]

theorem setTimer_eq (w : World) (task due : Nat) :
    ∃ more timers, w.setTimer task due = { w with ready := w.ready ++ more, timers := timers } := by
  unfold setTimer
  split
  · obtain ⟨more, h, -⟩ := wake_eq w task
    exact ⟨more, w.timers, h⟩
  · exact ⟨[], _, by rw [List.append_nil]⟩

/-- All workers are new tasks that have not begun. -/
theorem start_induction {P : World → Prop} {w : World} (h : P { w with runs := w.runs + 1 })
    (hspawn : ∀ w k, k.stage = .ready → P w → P (w.spawn (.worker k))) : P w.start := by
  have hall : ∀ (ts : List Task) (w : World), P w →
      (∀ t ∈ ts, ∃ k : Worker, t = .worker k ∧ k.stage = .ready) → P (ts.foldl World.spawn w) := by
    intro ts
    induction ts with
    | nil => exact fun _ h _ => h
    | cons t ts ih =>
      intro w h ht
      obtain ⟨k, rfl, hk⟩ := ht t List.mem_cons_self
      exact ih _ (hspawn w k hk h) fun t' ht' => ht t' (List.mem_cons_of_mem _ ht')
  refine hall _ _ h fun t ht => ?_
  obtain ⟨⟨source, p⟩, -, rfl⟩ := List.mem_map.1 ht
  exact ⟨_, rfl, rfl⟩

theorem spawn_eq (w : World) (t : Task) : ∃ more, w.spawn t =
    { w with tasks := w.tasks ++ [t], ready := w.ready ++ more } ∧
      w.tasks.length ∈ w.ready ++ more :=
  wake_eq { w with tasks := w.tasks ++ [t] } w.tasks.length

end World
end StatusRelay
