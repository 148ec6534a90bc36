/-
# The queue of tasks to poll

Whatever moves a world on, tasks come to the queue at its end, and only tasks that do not stand in
it yet. So who stands in the queue goes forward whenever somebody before him is polled, and nobody
gets in before him. `Wakes` is this relation; it holds of every part of a poll, and of everything
that somebody outside does.

A run is *in order* if every task that is polled is the first in the queue.
-/

import StatusRelay.Proofs.World.Frames
import StatusRelay.Proofs.World.Roster

namespace StatusRelay
namespace World

/-- Tasks come to the queue at its end, and none stands in it twice. -/
structure Wakes (w w' : World) : Prop where
  more : ∃ more, w'.ready = w.ready ++ more
  nodup : w.ready.Nodup → w'.ready.Nodup

/-- Whether a move polls nobody but the first in the queue. -/
def Move.keepsOrder (w : World) : Move → Bool
  | poll task => w.ready.head? == some task
  | _ => true

/-- Whether every task that the moves poll is the first in the queue then. -/
def inOrder (w : World) : List Move → Bool
  | [] => true
  | m :: moves => m.keepsOrder w && (w.act m).inOrder moves

theorem inOrder_concat {w : World} {moves : List Move} {m : Move} :
    w.inOrder (moves ++ [m]) = (w.inOrder moves && m.keepsOrder (w.run moves)) := by
  induction moves generalizing w with
  | nil => simp [inOrder, run]
  | cons m' moves ih =>
    rw [List.cons_append, inOrder, ih, inOrder, Bool.and_assoc]
    rfl

namespace Wakes

variable {w w' : World}

theorem of_ready (h : w'.ready = w.ready) : Wakes w w' :=
  ⟨⟨[], by rw [h, List.append_nil]⟩, by rw [h]; exact id⟩

theorem refl (w : World) : Wakes w w := of_ready rfl

theorem trans {a b c : World} (h : Wakes a b) (h' : Wakes b c) : Wakes a c where
  more := by
    obtain ⟨more, hb⟩ := h.more
    obtain ⟨more', hc⟩ := h'.more
    exact ⟨more ++ more', by rw [hc, hb, List.append_assoc]⟩
  nodup := fun hn => h'.nodup (h.nodup hn)

/-- The way from another world with the same queue. -/
theorem of_queue {a : World} (h : Wakes a w') (ha : a.ready = w.ready) : Wakes w w' :=
  (of_ready ha).trans h

/-- Who stands in the queue has the same tasks before him as ever. -/
theorem takeWhile_eq (h : Wakes w w') {i : Nat} (hi : i ∈ w.ready) :
    w'.ready.takeWhile (· != i) = w.ready.takeWhile (· != i) := by
  obtain ⟨more, hw⟩ := h.more
  obtain ⟨front, back, hready⟩ := List.append_of_mem hi
  rw [hw, hready, List.append_assoc, List.cons_append, List.takeWhile_append, List.takeWhile_append]
  split <;> simp

/-! ### Being woken -/

theorem wake (w : World) (task : Nat) : Wakes w (w.wake task) := by
  unfold World.wake
  split
  · exact refl w
  · rename_i hout
    refine ⟨⟨[task], rfl⟩, fun hn => ?_⟩
    have hout : task ∉ w.ready := by simpa using hout
    exact List.nodup_append.2 ⟨hn, by simp, fun x hx y hy => by
      rw [List.mem_singleton.1 hy]
      exact ne_of_mem_of_not_mem hx hout⟩

theorem wakeAll (w : World) (tasks : List Nat) : Wakes w (w.wakeAll tasks) := by
  induction tasks generalizing w with
  | nil => exact refl w
  | cons task tasks ih => exact (wake w task).trans (ih _)

theorem wakeParties (w : World) (parties : List Wake) : Wakes w (w.wakeParties parties) := by
  induction parties generalizing w with
  | nil => exact refl w
  | cons party parties ih =>
    cases party with
    | publisher ticket => exact (wake w ticket).trans (ih _)
    | receiver queue => exact (wakeAll w _).trans (ih _)

theorem withBus (w : World) (bus : Bus) (parties : List Wake) :
    Wakes w (w.withBus bus parties) :=
  (wakeParties { w with bus := bus } parties).of_queue rfl

theorem withPermits (w : World) (permits : Permits) (given : Option Nat) :
    Wakes w (w.withPermits permits given) :=
  (wakeAll { w with permits := permits } _).of_queue rfl

theorem setTimer (w : World) (task due : Nat) : Wakes w (w.setTimer task due) := by
  unfold World.setTimer
  split
  · exact wake w task
  · exact of_ready rfl

theorem spawn (w : World) (t : Task) : Wakes w (w.spawn t) :=
  (wake { w with tasks := w.tasks ++ [t] } _).of_queue rfl

/-! ### Polls and what comes from outside -/

theorem drive (w : World) (i : Nat) (event : Event) : Wakes w (w.drive i event).1 := by
  unfold World.drive
  split
  · split
    · exact (withBus w _ _).trans (of_ready rfl)
    · exact withBus w _ _
  · exact refl w

theorem frame (i : Nat) (may : Occurrence → Prop) : Frame i may Wakes where
  refl := refl
  trans := trans
  put _ _ := of_ready rfl
  note _ _ _ := of_ready rfl
  setTimer w := setTimer w i
  request _ _ := of_ready rfl
  drive w := drive w i
  cancel w := withBus w _ _
  permit := withPermits
  collect _ _ := of_ready rfl
  remember _ _ := of_ready rfl
  ask _ _ := of_ready rfl
  take w _ := withBus w _ _
  leave w _ := withBus w _ _

/-- **A poll sends nobody back in the queue.** -/
theorem poll (w : World) (i : Nat) : Wakes w (w.poll i) :=
  Frame.poll_of_all (frame i) w

theorem start (w : World) : Wakes w w.start := by
  have hall : ∀ (ts : List Task) (w : World), Wakes w (ts.foldl World.spawn w) := by
    intro ts
    induction ts with
    | nil => exact refl
    | cons t ts ih => exact fun w => (spawn w t).trans (ih _)
  exact (hall _ _).of_queue rfl

/-- **Nor does anybody outside.** -/
theorem act (w : World) {m : Move} (hm : ∀ i, m ≠ .poll i) : Wakes w (w.act m) := by
  cases m with
  | start => exact start w
  | poll task => exact absurd rfl (hm task)
  | clock moment => exact of_ready rfl
  | fire moment => exact (wakeAll _ _).of_queue rfl
  | send value => exact (wakeAll _ _).of_queue rfl
  | dropSignal => exact (wakeAll _ _).of_queue rfl
  | subscribe =>
    simp only [World.act, World.subscribe?]
    rcases w.bus.subscribe? with _ | ⟨queue, bus⟩
    · exact refl w
    · exact of_ready rfl
  | unsubscribe queue => exact withBus _ _ _
  | take queue => exact withBus _ _ _
  | drain queue => exact withBus _ _ _
  | consume sink queue => exact spawn _ _
  | post event => exact spawn _ _
  | offer key => exact of_ready rfl
  | closeBus => exact withBus _ _ _

end Wakes

/-- **No task stands in the queue twice.** -/
theorem nodup_ready_act {w : World} (h : w.ready.Nodup) (m : Move) : (w.act m).ready.Nodup := by
  by_cases hm : ∀ i, m ≠ .poll i
  · exact (Wakes.act w hm).nodup h
  · obtain ⟨i, hi⟩ := not_forall.1 hm
    obtain rfl := not_not.1 hi
    exact (Wakes.poll { w with ready := w.ready.erase i } i).nodup (h.erase i)

end World
end StatusRelay
