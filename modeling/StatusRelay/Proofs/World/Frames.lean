/-
# What every part of a poll keeps

A poll of a task is put together from few parts. A relation between worlds that holds of each part,
and can be put together, holds of the world before a poll and the world after it, `Frame.poll`.
Where it holds only of the parts that send, or only of those that receive from one queue, it holds
of the polls of workers and publishers, `Sending.poll`, or of consumers of that queue,
`Receiving.poll`.

| part | in polls of |
| --- | --- |
| the task changes, something is recorded, a timer is set | workers and consumers |
| a publish is asked for, moved on, given up | workers and publishers |
| permits come and go, keys are admitted, a provider is asked | workers |
| an event is taken off a queue, a subscription is given up | consumers |

What a task records is `Writes`; the deliveries of a publish are recorded where it is moved on.
-/

import StatusRelay.World

namespace StatusRelay

/-- What a worker records, deliveries apart. -/
inductive Worker.Writes (name : String) : Occurrence → Prop
  | asked : Writes name .asked
  | fetchBegan : Writes name .fetchBegan
  | fetchEnded (elapsed : Nat) (outcome : FetchOutcome) :
    Writes name (.fetchEnded name elapsed outcome)
  | fetchAbandoned : Writes name .fetchAbandoned
  | filtered (fresh : List Event) (duplicates : Nat) :
    Writes name (.filtered name fresh duplicates)
  | published (event : Event) : Writes name (.published name event)
  | ended : Writes name .ended

/-- What a consumer records. -/
inductive Consumer.Writes (name : String) : Occurrence → Prop
  | taken (event : Event) : Writes name (.taken event)
  | handled (event : Event) (outcome : HandlingOutcome) :
    Writes name (.handled name event outcome)
  | ended : Writes name .ended

/-- What a task records, deliveries apart. -/
def Task.Writes : Task → Occurrence → Prop
  | worker k => Worker.Writes k.name
  | consumer c => Consumer.Writes c.sink.name
  | publisher .. => fun _ => False

namespace World

variable {i queue : Nat} {may : Occurrence → Prop} {R : World → World → Prop}

/-- A relation of worlds that holds of every part of a poll of a worker or a publisher, and can be
put together. What the task may record is given. -/
structure Sending (i : Nat) (may : Occurrence → Prop) (R : World → World → Prop) : Prop where
  refl (w : World) : R w w
  trans {a b c : World} : R a b → R b c → R a c
  put (w : World) (t : Task) : R w (w.put i t)
  note (w : World) {what : Occurrence} (h : may what) : R w (w.note i what)
  setTimer (w : World) (due : Nat) : R w (w.setTimer i due)
  request (w : World) (event : Event) : R w (w.request i event)
  drive (w : World) (event : Event) : R w (w.drive i event).1
  cancel (w : World) : R w (w.cancelPublish i)
  permit (w : World) (permits : Permits) (given : Option Nat) : R w (w.withPermits permits given)
  collect (w : World) (permits : Permits) : R w { w with permits := permits }
  remember (w : World) (admission : Admission) : R w { w with admission := admission }
  ask (w : World) (providers : List Provider) : R w { w with providers := providers }

/-- A relation of worlds that holds of every part of a poll of a consumer of one queue, and can be
put together. -/
structure Receiving (i queue : Nat) (may : Occurrence → Prop) (R : World → World → Prop) :
    Prop where
  refl (w : World) : R w w
  trans {a b c : World} : R a b → R b c → R a c
  put (w : World) (t : Task) : R w (w.put i t)
  note (w : World) {what : Occurrence} (h : may what) : R w (w.note i what)
  setTimer (w : World) (due : Nat) : R w (w.setTimer i due)
  take (w : World) : R w (w.take queue).2
  leave (w : World) : R w (w.unsubscribe queue)

/-- **A relation of worlds that holds of every part of a poll,** of whatever task. -/
structure Frame (i : Nat) (may : Occurrence → Prop) (R : World → World → Prop) : Prop where
  refl (w : World) : R w w
  trans {a b c : World} : R a b → R b c → R a c
  put (w : World) (t : Task) : R w (w.put i t)
  note (w : World) {what : Occurrence} (h : may what) : R w (w.note i what)
  setTimer (w : World) (due : Nat) : R w (w.setTimer i due)
  request (w : World) (event : Event) : R w (w.request i event)
  drive (w : World) (event : Event) : R w (w.drive i event).1
  cancel (w : World) : R w (w.cancelPublish i)
  permit (w : World) (permits : Permits) (given : Option Nat) : R w (w.withPermits permits given)
  collect (w : World) (permits : Permits) : R w { w with permits := permits }
  remember (w : World) (admission : Admission) : R w { w with admission := admission }
  ask (w : World) (providers : List Provider) : R w { w with providers := providers }
  take (w : World) (queue : Nat) : R w (w.take queue).2
  leave (w : World) (queue : Nat) : R w (w.unsubscribe queue)

/-! ### Workers and publishers -/

namespace Sending

theorem pollPublisher (h : Sending i may R) (w : World) (event : Event) (stage : PublisherStage) :
    R w (w.pollPublisher i event stage) := by
  have hgo (w : World) : R w (pollPublisher.go i event w) := by
    have hd := h.drive w event
    unfold pollPublisher.go
    split
    all_goals
      rename_i heq
      rw [heq] at hd
      exact h.trans hd (h.put _ _)
  cases stage with
  | new => exact h.trans (h.request w event) (hgo _)
  | waiting => exact hgo w
  | _ => exact h.refl w

theorem endWorker (h : Sending i may R) (hended : may .ended) (w : World) (k : Worker)
    (stage : Stage) : R w (w.endWorker i k stage) :=
  h.trans (h.put w _) (h.note _ hended)

theorem sleep (h : Sending i may R) (w : World) (k : Worker) : R w (w.sleep i k) :=
  h.trans (h.put w _) (h.setTimer _ _)

section Workers

variable {name : String} (h : Sending i (Worker.Writes name) R)

include h

theorem publish (w : World) {k : Worker} (hk : k.name = name) (pending : List Event) :
    R w (w.publish i k pending) := by
  induction pending generalizing w k with
  | nil => exact h.sleep w k
  | cons e es ih =>
    have hd := h.drive w e
    unfold World.publish
    split
    · rename_i heq
      rw [heq] at hd
      exact h.trans hd (h.put _ _)
    · rename_i heq
      rw [heq] at hd
      subst hk
      have hpublished := h.trans hd (h.note _ (.published e))
      split
      · exact h.trans hpublished (h.sleep _ _)
      · exact h.trans hpublished (h.trans (h.request _ _) (ih _ rfl))

theorem sift (w : World) {k : Worker} (hk : k.name = name) (found : List Event) :
    R w (w.sift i k found) := by
  subst hk
  have hsifted := h.trans (h.remember w (w.admission.filter found).2) (h.note _ (.filtered
    (w.admission.filter found).1 (found.length - (w.admission.filter found).1.length)))
  unfold World.sift
  simp only
  split
  · exact h.trans hsifted (h.sleep _ _)
  · exact h.trans hsifted (h.trans (h.request _ _) (h.publish _ (by rfl) _))

theorem finishFetch (w : World) {k : Worker} (hk : k.name = name) (since : Nat)
    (outcome : FetchOutcome) : R w (w.finishFetch i k since outcome) := by
  subst hk
  have hended := h.trans (h.permit w w.permits.release.1 w.permits.release.2)
    (h.note _ (.fetchEnded (w.now - since) outcome))
  unfold World.finishFetch
  cases outcome with
  | events es => exact h.trans hended (h.sift _ (by rfl) _)
  | crashed crash => exact h.trans hended (h.sift _ (by rfl) _)
  | deadly => exact h.trans hended (h.endWorker .ended _ _ _)

theorem beginFetch (w : World) {k : Worker} (hk : k.name = name) : R w (w.beginFetch i k) := by
  have hbegan := h.note w .fetchBegan
  unfold World.beginFetch
  simp only
  split
  · exact h.trans hbegan (h.finishFetch _ (by exact hk) _ _)
  · split
    · exact h.trans hbegan (h.trans (h.ask _ _) (h.finishFetch _ (by exact hk) _ _))
    · exact h.trans hbegan (h.trans (h.ask _ _) (h.trans (h.put _ _) (h.setTimer _ _)))

theorem askPermit (w : World) {k : Worker} (hk : k.name = name) : R w (w.askPermit i k) := by
  have hasked := h.note w .asked
  unfold World.askPermit
  simp only
  split
  · exact h.trans hasked (h.endWorker .ended _ _ _)
  · split
    · exact h.trans hasked (h.trans (h.collect _ _) (h.beginFetch _ hk))
    · exact h.trans hasked (h.trans (h.collect _ _) (h.put _ _))

theorem stopWorker (w : World) (k : Worker) : R w (w.stopWorker i k) := by
  unfold World.stopWorker
  cases k.stage with
  | queued => exact h.trans (h.permit w _ _) (h.endWorker .ended _ _ _)
  | fetching since due outcome =>
    exact h.trans (h.trans (h.permit w _ _) (h.note _ .fetchAbandoned))
      (h.endWorker .ended _ _ _)
  | publishing pending => exact h.trans (h.cancel w) (h.endWorker .ended _ _ _)
  | _ => exact h.endWorker .ended w k _

theorem pollWorker (w : World) {k : Worker} (hk : k.name = name) : R w (w.pollWorker i k) := by
  unfold World.pollWorker
  split
  · exact h.stopWorker w k
  · cases k.stage with
    | ready => exact h.askPermit w hk
    | queued =>
      simp only
      split
      · exact h.endWorker .ended _ _ _
      · split
        · exact h.trans (h.collect _ _) (h.beginFetch _ hk)
        · exact h.refl w
    | fetching since due outcome =>
      simp only
      split
      · exact h.finishFetch _ hk _ _
      · exact h.refl w
    | publishing pending => exact h.publish _ hk _
    | sleeping due =>
      simp only
      split
      · exact h.askPermit w hk
      · exact h.refl w
    | _ => exact h.refl w

end Workers

/-- What holds of every part that sends holds of a poll of a task that is no consumer. -/
theorem poll {w : World} {t : Task} (ht : w.tasks[i]? = some t) (hc : t.consumer? = none)
    (h : Sending i t.Writes R) : R w (w.poll i) := by
  unfold World.poll
  rw [ht]
  simp only
  split
  · exact h.refl w
  · cases t with
    | worker k => exact h.pollWorker w rfl
    | consumer c => simp [Task.consumer?] at hc
    | publisher event stage => exact h.pollPublisher w event stage

end Sending

/-! ### Consumers -/

namespace Receiving

section Polls

variable {name : String} (h : Receiving i queue (Consumer.Writes name) R)

include h

theorem endConsumer (w : World) {c : Consumer} (hq : c.queue = queue) (stage : ConsumerStage) :
    R w (w.endConsumer i c stage) := by
  subst hq
  exact h.trans (h.put w _) (h.trans (h.leave _) (h.note _ .ended))

theorem finishHandling (w : World) {c : Consumer} (hc : c.sink.name = name) (event : Event)
    (outcome : HandlingOutcome) : R w (w.finishHandling i c event outcome).1 := by
  subst hc
  exact h.note w (.handled event outcome)

theorem receive (w : World) {c : Consumer} (hc : c.sink.name = name) (hq : c.queue = queue)
    (most : Nat) : R w (w.receive i c most) := by
  induction most generalizing w c with
  | zero => exact h.put w _
  | succ most ih =>
    unfold World.receive
    split
    · exact h.put w _
    · exact h.endConsumer w hq _
    · rename_i e bus parties htake
      have htaken : R w ((w.withBus bus parties).note i (.taken e)) := by
        have := h.take w
        rw [← hq] at this
        rw [World.take, htake] at this
        exact h.trans this (h.note _ (.taken e))
      simp only
      split
      · have hdone := h.trans htaken (h.finishHandling _ (c := { c with
            tally.received := c.tally.received + 1 }) hc e
          (c.sink.handle c.tally.received e).outcome)
        split
        · exact h.trans hdone (h.endConsumer _ (by exact hq) _)
        · exact h.trans hdone (ih _ (by exact hc) (by exact hq))
      · exact h.trans htaken (h.trans (h.put _ _) (h.setTimer _ _))

theorem pollConsumer (w : World) {c : Consumer} (hc : c.sink.name = name)
    (hq : c.queue = queue) : R w (w.pollConsumer i c) := by
  unfold World.pollConsumer
  split
  · exact h.endConsumer w hq _
  · cases c.stage with
    | receiving => exact h.receive w hc hq _
    | handling event due outcome =>
      simp only
      split
      · have hdone := h.finishHandling w hc event outcome
        split
        · exact h.trans hdone (h.endConsumer _ (by exact hq) _)
        · exact h.trans hdone (h.receive _ (by exact hc) (by exact hq) _)
      · exact h.refl w
    | _ => exact h.refl w

end Polls

/-- What holds of every part that receives from a queue holds of a poll of its consumer. -/
theorem poll {w : World} {c : Consumer} (hc : w.tasks[i]? = some (.consumer c))
    (h : Receiving i c.queue (Consumer.Writes c.sink.name) R) : R w (w.poll i) := by
  unfold World.poll
  rw [hc]
  simp only
  split
  · exact h.refl w
  · exact h.pollConsumer w rfl rfl

end Receiving

/-! ### All tasks -/

namespace Frame

theorem sending (h : Frame i may R) : Sending i may R where
  refl := h.refl
  trans := h.trans
  put := h.put
  note := h.note
  setTimer := h.setTimer
  request := h.request
  drive := h.drive
  cancel := h.cancel
  permit := h.permit
  collect := h.collect
  remember := h.remember
  ask := h.ask

theorem receiving (h : Frame i may R) (queue : Nat) : Receiving i queue may R where
  refl := h.refl
  trans := h.trans
  put := h.put
  note := h.note
  setTimer := h.setTimer
  take w := h.take w queue
  leave w := h.leave w queue

/-- **What holds of every part of a poll holds of a poll.** -/
theorem poll {w : World} {t : Task} (ht : w.tasks[i]? = some t) (h : Frame i t.Writes R) :
    R w (w.poll i) := by
  cases t with
  | consumer c => exact (h.receiving c.queue).poll ht
  | worker k => exact h.sending.poll ht rfl
  | publisher event stage => exact h.sending.poll ht rfl

/-- Likewise for a relation that does not mind what is recorded. -/
theorem poll_of_all (h : ∀ may, Frame i may R) (w : World) : R w (w.poll i) := by
  rcases ht : w.tasks[i]? with _ | t
  · have hw : w.poll i = w := by simp [World.poll, ht]
    rw [hw]
    exact (h fun _ => False).refl w
  · exact (h t.Writes).poll ht

end Frame

end World
end StatusRelay
