/-
# What a poll of a worker comes to

A worker takes *turns*: it asks for a permit, begins a fetch, and the fetch comes to its end or is
given up. The rest of what is recorded of it happens in between. A poll comes to one of these:

| stage | poll | turns |
| --- | --- | --- |
| none that can go on | it waits as before | |
| `ready`, `sleeping` up to now | it asks for a permit, and joins the line | `asked` |
| the same, or `queued` | it has a permit, and begins a fetch | `fetchBegan` |
| `fetching` up to now | the fetch comes to its end | `fetchEnded` |
| `publishing` | it goes on with its events | |
| any, after a stop | it comes to its end | `fetchAbandoned`, if it fetched |

After a fetch it publishes or sleeps, unless the fetch took it down: `Relaxes`. If it sleeps, then
from now on for its interval. If a publish has to wait, its stage says so.
-/

import StatusRelay.Proofs.World.Neighbours
import StatusRelay.Proofs.World.Overtaking

namespace StatusRelay

/-- Whether an occurrence is a turn of a cycle: a permit is asked for, or a fetch begins, comes to
its end or is given up. -/
def Occurrence.isTurn : Occurrence → Bool
  | asked | fetchBegan | fetchEnded .. | fetchAbandoned => true
  | _ => false

/-- Whether a worker at this stage asks for a permit when it is polled. -/
def Stage.asksAt (now : Nat) : Stage → Bool
  | ready => true
  | sleeping due => due ≤ now
  | _ => false

namespace World

open Occurrence (Entry)

variable {i : Nat} {k : Worker} {w w' x : World}

/-! ### Turns -/

/-- The turns of a worker, the latest first. -/
def turns (i : Nat) (w : World) : List Entry := (ofTask i w.log).filter (·.what.isTurn)

/-- The turns that a worker takes when it is polled. -/
def newTurns (i : Nat) (w : World) : List Entry :=
  ((w.act (.poll i)).turns i).take (((w.act (.poll i)).turns i).length - (w.turns i).length)

/-- Whether a worker asks for a permit when it is polled. -/
def asks (i : Nat) (w : World) : Bool := (w.newTurns i).any (·.what == .asked)

/-- Whether a worker begins a fetch when it is polled. -/
def begins (i : Nat) (w : World) : Bool := (w.newTurns i).any (·.what == .fetchBegan)

theorem newTurns_eq {l : List Entry} (h : (w.act (.poll i)).turns i = l ++ w.turns i) :
    w.newTurns i = l := by
  simp [newTurns, h]

theorem turns_congr (h : w'.log = w.log) : w'.turns i = w.turns i := by rw [turns, turns, h]

theorem turns_note (w : World) (what : Occurrence) : (w.note i what).turns i =
    if what.isTurn then ⟨w.now, i, what⟩ :: w.turns i else w.turns i := by
  simp [turns, ofTask, note, List.filter_cons]

theorem begins_eq {l : List Entry} (h : (w.act (.poll i)).turns i = l ++ w.turns i) :
    w.begins i = l.any (·.what == .fetchBegan) := by
  rw [begins, newTurns_eq h]

theorem asks_eq {l : List Entry} (h : (w.act (.poll i)).turns i = l ++ w.turns i) :
    w.asks i = l.any (·.what == .asked) := by
  rw [asks, newTurns_eq h]

/-! ### After a fetch -/

theorem awaits_setTimer (w : World) (i due : Nat) : Awaits i due (w.setTimer i due) := by
  unfold setTimer
  split
  · rename_i hdue
    obtain ⟨more, hw, hmem⟩ := wake_eq w i
    rw [hw]
    exact Or.inr ⟨hmem, hdue⟩
  · exact Or.inl (by simp)

/-- **A worker has no fetch to do.** It publishes, or it has begun to sleep. -/
structure Relaxes (i interval : Nat) (w w' : World) : Prop where
  now : w'.now = w.now
  turns : w'.turns i = w.turns i
  stage : (∃ pending, w'.stageAt i = some (.publishing pending)) ∨
    w'.stageAt i = some (.sleeping (w.now + interval)) ∧ Awaits i (w.now + interval) w'

namespace Relaxes

variable {interval : Nat}

theorem of_turns {a : World} (hturns : a.turns i = w.turns i) (hnow : a.now = w.now)
    (h : Relaxes i interval a w') : Relaxes i interval w w' where
  now := h.now.trans hnow
  turns := h.turns.trans hturns
  stage := hnow ▸ h.stage

theorem of_request {event : Event} (h : Relaxes i interval (w.request i event) w') :
    Relaxes i interval w w' :=
  of_turns (a := w.request i event) rfl rfl h

theorem sleep (hk : k.interval = interval) (hi : i < w.tasks.length) :
    Relaxes i interval w (w.sleep i k) where
  now := ((Ticks.frame i fun _ => True).sending.sleep w k).now
  turns := turns_congr (log_setTimer _ _ _)
  stage := by
    subst hk
    exact Or.inr ⟨stageAt_sleep hi k, awaits_setTimer _ _ _⟩

theorem publish (hk : k.interval = interval) (hi : i < w.tasks.length) (pending : List Event) :
    Relaxes i interval w (w.publish i k pending) := by
  induction pending generalizing w k with
  | nil => exact sleep hk hi
  | cons e es ih =>
    unfold World.publish
    rcases drive_cases w i e with ⟨ticket, count, more, -, -, hd⟩ | ⟨bus, -, hd⟩
    · rw [hd]
      have hturns : ((({ w with
          bus := w.bus.drive.1
          ready := w.ready ++ more
          log := ⟨w.now, i, .delivered e count⟩ :: w.log } : World).note i
            (.published k.name e)).turns i) = w.turns i :=
        (turns_note _ _).trans (turns_note w (.delivered e count))
      cases es with
      | nil => exact of_turns hturns rfl (sleep (by exact hk) (by exact hi))
      | cons e' es =>
        exact of_turns hturns rfl (of_request (ih (by exact hk) (by exact hi)))
    · rw [hd]
      exact ⟨rfl, rfl, Or.inl ⟨_, stageAt_put (by exact hi) _⟩⟩

theorem sift (hk : k.interval = interval) (hi : i < w.tasks.length) (found : List Event) :
    Relaxes i interval w (w.sift i k found) := by
  have hturns : (({ w with admission := (w.admission.filter found).2 } : World).note i
      (.filtered k.name (w.admission.filter found).1
        (found.length - (w.admission.filter found).1.length))).turns i = w.turns i :=
    turns_note _ _
  unfold World.sift
  simp only
  split
  · exact of_turns hturns rfl (sleep (by exact hk) (by exact hi))
  · exact of_turns hturns rfl (of_request (publish (by exact hk) (by exact hi) _))

end Relaxes

/-- **A fetch has come to its end.** The worker died of it, or it relaxes. -/
inductive Finishes (i : Nat) (name : String) (interval since : Nat) (w w' : World) : Prop
  | dies (hstage : w'.stageAt i = some .died)
    (hturns : w'.turns i = ⟨w.now, i, .fetchEnded name (w.now - since) .deadly⟩ :: w.turns i)
  | lives {outcome : FetchOutcome} (hlives : outcome ≠ .deadly)
    (h : Relaxes i interval (w.note i (.fetchEnded name (w.now - since) outcome)) w')

/-- **A fetch has begun.** It goes on, or it has come to its end at once. -/
inductive Starts (i : Nat) (name : String) (interval : Nat) (w w' : World) : Prop
  | goesOn {due : Nat} {outcome : FetchOutcome} (hnow : w'.now = w.now)
    (hstage : w'.stageAt i = some (.fetching w.now due outcome))
    (hturns : w'.turns i = ⟨w.now, i, .fetchBegan⟩ :: w.turns i)
  | atOnce (h : Finishes i name interval w.now (w.note i .fetchBegan) w')

section Fetches

variable {name : String} {interval since : Nat}

/-- Only the time and the record matter of the world before. -/
theorem Finishes.finishFetch (hnow : x.now = w.now) (hlog : x.log = w.log) (hname : k.name = name)
    (hinterval : k.interval = interval) (hi : i < x.tasks.length) (outcome : FetchOutcome) :
    Finishes i name interval since w (x.finishFetch i k since outcome) := by
  obtain ⟨permits, more, hrelease⟩ := releasePermit_same x
  have hturns : (({ x with permits := permits, ready := x.ready ++ more } : World).note i
      (.fetchEnded k.name (x.now - since) outcome)).turns i =
        (w.note i (.fetchEnded name (w.now - since) outcome)).turns i :=
    turns_congr (by simp only [note, hnow, hlog, hname])
  unfold World.finishFetch
  rw [hrelease]
  cases outcome with
  | events es =>
    exact .lives (by simp) (.of_turns hturns hnow (.sift (by exact hinterval) (by exact hi) _))
  | crashed crash =>
    exact .lives (by simp) (.of_turns hturns hnow (.sift (by exact hinterval) (by exact hi) _))
  | deadly =>
    refine .dies (stageAt_endWorker (by exact hi) _ _) ?_
    exact (turns_note _ .ended).trans (hturns.trans (turns_note w _))

theorem Starts.beginFetch (hname : k.name = name) (hinterval : k.interval = interval)
    (hi : i < w.tasks.length) : Starts i name interval w (w.beginFetch i k) := by
  unfold World.beginFetch
  simp only
  split
  · exact .atOnce (.finishFetch (by rfl) (by rfl) (by exact hname) (by exact hinterval)
      (by exact hi) _)
  · split
    · exact .atOnce (.finishFetch (by rfl) (by rfl) (by exact hname) (by exact hinterval)
        (by exact hi) _)
    · exact .goesOn (by exact (Ticks.setTimer _ i _).now)
        ((stageAt_setTimer _ _ _ _).trans (stageAt_put (by exact hi) _))
        ((turns_congr (log_setTimer _ _ _)).trans (turns_note w .fetchBegan))

/-- A fetch that has begun is told. -/
theorem Starts.turns (h : Starts i name interval w w') : ∃ more,
    w'.turns i = more ++ ⟨w.now, i, .fetchBegan⟩ :: w.turns i := by
  have hbegan : (w.note i .fetchBegan).turns i = ⟨w.now, i, .fetchBegan⟩ :: w.turns i :=
    turns_note w .fetchBegan
  cases h with
  | goesOn _ _ hturns => exact ⟨[], hturns⟩
  | atOnce h =>
    rw [← hbegan]
    cases h with
    | dies _ hturns => exact ⟨[_], hturns⟩
    | lives _ h => exact ⟨[_], h.turns.trans (turns_note _ _)⟩

end Fetches

/-! ### A poll -/

/-- **What a poll of a worker comes to.** -/
inductive Course (i : Nat) (k : Worker) (w w' : World) : Prop
  /-- It waits as before. -/
  | waits (hw : w' = { w with ready := w.ready.erase i })
    (hearly : ∀ due, k.stage = .sleeping due → w.now < due)
  /-- It asks for a permit, and none is free. -/
  | joins (hasks : k.stage.asksAt w.now = true) (hfree : w.permits.free = 0)
    (hstage : w'.stageAt i = some .queued) (hturns : w'.turns i = ⟨w.now, i, .asked⟩ :: w.turns i)
  /-- It has a permit, and begins a fetch. -/
  | begins {x : World} (h : Starts i k.name k.interval x w') (hnow : x.now = w.now)
    (hpermit : k.stage.asksAt w.now = true ∧ 0 < w.permits.free ∧
        x.turns i = ⟨w.now, i, .asked⟩ :: w.turns i ∨
      k.stage = .queued ∧ x.turns i = w.turns i)
  | finishes {since due : Nat} {outcome : FetchOutcome}
    (hstage : k.stage = .fetching since due outcome)
    (h : Finishes i k.name k.interval since w w')
  | publishes {pending : List Event} (hstage : k.stage = .publishing pending)
    (h : Relaxes i k.interval w w')
  /-- It is told to stop. -/
  | ends (hstage : w'.stageAt i = some .cancelled) (hturns : w'.turns i = w.turns i ∨
    w'.turns i = ⟨w.now, i, .fetchAbandoned⟩ :: w.turns i)

namespace Course

theorem stopWorker (hi : i < w.tasks.length) :
    Course i k w ({ w with ready := w.ready.erase i }.stopWorker i k) := by
  have hend (a : World) (hlength : a.tasks.length = w.tasks.length)
      (hturns : a.turns i = w.turns i ∨ a.turns i = ⟨w.now, i, .fetchAbandoned⟩ :: w.turns i) :
      Course i k w (a.endWorker i k .cancelled) :=
    .ends (stageAt_endWorker (hlength ▸ hi) k _) <| by
      rwa [show (a.endWorker i k .cancelled).turns i = a.turns i from turns_note _ _]
  unfold World.stopWorker
  cases k.stage with
  | queued =>
    obtain ⟨more, hw⟩ := withPermits_eq { w with ready := w.ready.erase i }
      (w.permits.leave i).1 (w.permits.leave i).2
    simp only
    rw [hw]
    exact hend _ rfl (Or.inl rfl)
  | fetching since due outcome =>
    obtain ⟨permits, more, hw⟩ := releasePermit_same { w with ready := w.ready.erase i }
    simp only
    rw [hw]
    exact hend _ rfl (Or.inr (turns_note _ _))
  | publishing pending =>
    obtain ⟨more, hw⟩ := withBus_eq { w with ready := w.ready.erase i }
      (w.bus.cancel i).2.1 (w.bus.cancel i).2.2
    simp only [cancelPublish]
    rw [hw]
    exact hend _ rfl (Or.inl rfl)
  | _ => exact hend _ rfl (Or.inl rfl)

theorem askPermit (hopened : w.permits.closed = false) (hasks : k.stage.asksAt w.now = true)
    (hi : i < w.tasks.length) :
    Course i k w ({ w with ready := w.ready.erase i }.askPermit i k) := by
  have hturns : (({ w with ready := w.ready.erase i } : World).note i .asked).turns i =
      ⟨w.now, i, .asked⟩ :: w.turns i := turns_note w .asked
  unfold World.askPermit
  simp only [show (({ w with ready := w.ready.erase i } : World).note i .asked).permits = w.permits
    from rfl, hopened, Bool.false_eq_true, if_false]
  rcases Nat.eq_zero_or_pos w.permits.free with hfree | hfree
  · have htake : w.permits.take? = none := by simp [Permits.take?, hfree]
    rw [htake]
    exact .joins hasks hfree (stageAt_put (by exact hi) _) hturns
  · have htake : w.permits.take? = some { w.permits with free := w.permits.free - 1 } := by
      simp [Permits.take?, hopened, Nat.ne_of_gt hfree]
    rw [htake]
    exact .begins (.beginFetch rfl rfl (by exact hi)) rfl (Or.inl ⟨hasks, hfree, hturns⟩)

theorem pollWorker (hopened : w.permits.closed = false) (hk : w.tasks[i]? = some (.worker k))
    (hover : k.stage.isOver = false) :
    Course i k w ({ w with ready := w.ready.erase i }.pollWorker i k) := by
  have hi : i < w.tasks.length := (List.getElem?_eq_some_iff.1 hk).1
  unfold World.pollWorker
  split
  · exact stopWorker hi
  · cases hstage : k.stage with
    | ready => exact askPermit hopened (by simp [hstage, Stage.asksAt]) hi
    | queued =>
      simp only
      split
      · simp_all
      · split
        · exact .begins (.beginFetch rfl rfl (by exact hi)) rfl (Or.inr ⟨hstage, rfl⟩)
        · exact .waits rfl (by simp [hstage])
    | fetching since due outcome =>
      simp only
      split
      · exact .finishes hstage (.finishFetch (by rfl) (by rfl) rfl rfl (by exact hi) _)
      · exact .waits rfl (by simp [hstage])
    | publishing pending =>
      exact .publishes hstage (.of_turns (a := { w with ready := w.ready.erase i }) rfl rfl
        (.publish (by rfl) (by exact hi) _))
    | sleeping due =>
      simp only
      split
      · exact askPermit hopened (by simpa [hstage, Stage.asksAt]) hi
      · rename_i hdue
        exact .waits rfl (by simpa [hstage] using hdue)
    | _ => simp [hstage, Stage.isOver] at hover

/-- **The course of a worker that is polled,** whatever its stage. -/
theorem poll (hopened : w.permits.closed = false) (hk : w.tasks[i]? = some (.worker k)) :
    Course i k w (w.act (.poll i)) := by
  rcases hover : k.stage.isOver with _ | _
  · have hpoll : w.act (.poll i) = { w with ready := w.ready.erase i }.pollWorker i k := by
      change { w with ready := w.ready.erase i }.poll i = _
      simp [World.poll, hk, Task.isOver, hover]
    rw [hpoll]
    exact pollWorker hopened hk hover
  · have hpoll : w.act (.poll i) = { w with ready := w.ready.erase i } := by
      change { w with ready := w.ready.erase i }.poll i = _
      simp [World.poll, hk, Task.isOver, hover]
    refine .waits hpoll fun due hstage => ?_
    simp [hstage, Stage.isOver] at hover

end Course

/-- A fetch that begins in a poll is told of it. -/
theorem Starts.begins {name : String} {interval : Nat} {l : List Entry}
    (h : Starts i name interval x (w.act (.poll i))) (hx : x.turns i = l ++ w.turns i) :
    w.begins i = true := by
  obtain ⟨more, hturns⟩ := h.turns
  have hall : (w.act (.poll i)).turns i =
      (more ++ ⟨x.now, i, .fetchBegan⟩ :: l) ++ w.turns i := by
    rw [hturns, hx, List.append_assoc]
    rfl
  rw [begins_eq hall]
  simp

/-- **A worker begins a fetch with a permit,** which was free or was handed to it. -/
theorem Course.fetches (h : Course i k w (w.act (.poll i))) (hbegins : w.begins i = true) :
    ∃ x, Starts i k.name k.interval x (w.act (.poll i)) ∧ x.now = w.now ∧
      (k.stage.asksAt w.now = true ∧ x.turns i = ⟨w.now, i, .asked⟩ :: w.turns i ∨
        k.stage = .queued) := by
  -- Whatever else it does when it is polled, the turns that it takes are no beginning of a fetch.
  have hother {l : List Entry} (hl : l.any (·.what == .fetchBegan) = false)
      (hturns : (w.act (.poll i)).turns i = l ++ w.turns i) : False := by
    rw [begins_eq hturns, hl] at hbegins
    exact Bool.false_ne_true hbegins
  cases h with
  | begins hx hnow hpermit =>
    exact ⟨_, hx, hnow, hpermit.imp (fun ⟨hasks, _, hturns⟩ => ⟨hasks, hturns⟩) And.left⟩
  | waits hw _ => exact (hother (l := []) rfl (by rw [hw]; rfl)).elim
  | joins _ _ _ hturns => exact (hother (l := [_]) rfl hturns).elim
  | finishes _ hf =>
    cases hf with
    | dies _ hturns => exact (hother (l := [_]) rfl hturns).elim
    | lives _ hr => exact (hother (l := [_]) rfl (hr.turns.trans (turns_note _ _))).elim
  | publishes _ hr => exact (hother (l := []) rfl hr.turns).elim
  | ends _ hturns =>
    rcases hturns with hturns | hturns
    · exact (hother (l := []) rfl hturns).elim
    · exact (hother (l := [_]) rfl hturns).elim

end World
end StatusRelay
