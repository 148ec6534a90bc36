/-
# One thread

On one thread a poll is a row of strides with nothing between them. So whatever happens on one
thread can happen on several, and what holds of all runs on several threads holds of those on one.

A poll and a row of strides do not come to the same world to the letter. The queue of tasks to poll
is another one, and does not matter. In the middle of a poll the task may have gone on while its
record is still that of before; it is written at the end, so this does not matter either. Two worlds
that differ in these two are `Alike`, and strides of the task make the same of them.

| part of a poll | is |
| --- | --- |
| `askPermit` | a stride that asks, and those of the fetch if a permit is free |
| `beginFetch` | a stride that asks the provider, and those of what it answers at once |
| `finishFetch` | a stride that filters, and those of the publishing |
| `publish` | a stride for each event, up to one that has to wait |
| `receive` | two strides for each event that the sink is done with at once, one for the last |
-/

import StatusRelay.Proofs.World.Sustained

namespace StatusRelay
namespace World

variable {u w w' : World} {i : Nat} {t : Task}

/-! ### Worlds that are alike -/

/-- **Two worlds differ in the queue, and in the record of one task.** -/
def Alike (i : Nat) (u w : World) : Prop := ∃ ready tasks,
  u = { w with ready := ready, tasks := tasks } ∧ ∀ t, tasks.set i t = w.tasks.set i t

theorem loose_loose (w : World) : w.loose.loose = w.loose := rfl

theorem loose_wakeAll (w : World) (tasks : List Nat) : (w.wakeAll tasks).loose = w.loose := by
  obtain ⟨more, h, -⟩ := wakeAll_eq w tasks
  rw [h]
  rfl

theorem loose_wake (w : World) (i : Nat) : (w.wake i).loose = w.loose := loose_wakeAll w [i]

theorem exists_of_loose (h : u.loose = w.loose) : ∃ ready, u = { w with ready := ready } :=
  ⟨u.ready, congrArg (fun v : World => { v with ready := u.ready }) h⟩

theorem loose_fire (h : u.loose = w.loose) (moment : Nat) :
    (u.fire moment).loose = (w.fire moment).loose := by
  obtain ⟨ready, rfl⟩ := exists_of_loose h
  unfold fire
  rw [loose_wakeAll, loose_wakeAll]
  rfl

theorem loose_setTimer_of_le (w : World) (i : Nat) {due : Nat} (h : due ≤ w.now) :
    (w.setTimer i due).loose = w.loose := by
  unfold setTimer
  rw [if_pos h, loose_wake]

theorem loose_setTimer (h : u.loose = w.loose) (task due : Nat) :
    (u.setTimer task due).loose = (w.setTimer task due).loose := by
  obtain ⟨ready, rfl⟩ := exists_of_loose h
  unfold setTimer
  simp only
  split
  · rw [loose_wake, loose_wake]
    rfl
  · rfl

namespace Alike

theorem of_loose (h : u.loose = w.loose) : Alike i u w := by
  obtain ⟨ready, hu⟩ := exists_of_loose h
  exact ⟨ready, w.tasks, hu, fun _ => rfl⟩

theorem of_put (w : World) (i : Nat) (t : Task) : Alike i (w.put i t) w :=
  ⟨w.ready, w.tasks.set i t, rfl, fun _ => List.set_set ..⟩

theorem trans {v : World} (h : Alike i u w) (h' : Alike i w v) : Alike i u v := by
  obtain ⟨ready, tasks, rfl, hset⟩ := h
  obtain ⟨ready', tasks', rfl, hset'⟩ := h'
  exact ⟨ready, tasks, rfl, fun t => (hset t).trans (hset' t)⟩

theorem now (h : Alike i u w) : u.now = w.now := by
  obtain ⟨ready, tasks, rfl, -⟩ := h
  rfl

theorem permits (h : Alike i u w) : u.permits = w.permits := by
  obtain ⟨ready, tasks, rfl, -⟩ := h
  rfl

theorem bus (h : Alike i u w) : u.bus = w.bus := by
  obtain ⟨ready, tasks, rfl, -⟩ := h
  rfl

/-- A record that is written makes up for the difference. -/
theorem put (h : Alike i u w) (t : Task) : (u.put i t).loose = (w.put i t).loose := by
  obtain ⟨ready, tasks, rfl, hset⟩ := h
  change { w with ready := [], tasks := tasks.set i t } = _
  rw [hset]
  rfl

theorem note (h : Alike i u w) (what : Occurrence) : Alike i (u.note i what) (w.note i what) := by
  obtain ⟨ready, tasks, rfl, hset⟩ := h
  exact ⟨ready, tasks, rfl, hset⟩

theorem setBus (h : Alike i u w) (bus : Bus) :
    Alike i { u with bus := bus } { w with bus := bus } := by
  obtain ⟨ready, tasks, rfl, hset⟩ := h
  exact ⟨ready, tasks, rfl, hset⟩

theorem withBus (h : Alike i u w) (bus : Bus) (parties : List Wake) :
    Alike i (u.withBus bus parties) (w.withBus bus parties) := by
  obtain ⟨more, hu⟩ := withBus_eq u bus parties
  obtain ⟨more', hw⟩ := withBus_eq w bus parties
  obtain ⟨ready, tasks, rfl, hset⟩ := h
  rw [hu, hw]
  exact ⟨_, tasks, rfl, hset⟩

theorem setPermits (h : Alike i u w) (permits : Permits) :
    Alike i { u with permits := permits } { w with permits := permits } := by
  obtain ⟨ready, tasks, rfl, hset⟩ := h
  exact ⟨ready, tasks, rfl, hset⟩

theorem withPermits (h : Alike i u w) (permits : Permits) (given : Option Nat) :
    Alike i (u.withPermits permits given) (w.withPermits permits given) := by
  obtain ⟨more, hu⟩ := withPermits_eq u permits given
  obtain ⟨more', hw⟩ := withPermits_eq w permits given
  obtain ⟨ready, tasks, rfl, hset⟩ := h
  rw [hu, hw]
  exact ⟨_, tasks, rfl, hset⟩

theorem releasePermit (h : Alike i u w) : Alike i u.releasePermit w.releasePermit := by
  unfold World.releasePermit
  rw [h.permits]
  exact h.withPermits _ _

theorem setProviders (h : Alike i u w) (providers : List Provider) :
    Alike i { u with providers := providers } { w with providers := providers } := by
  obtain ⟨ready, tasks, rfl, hset⟩ := h
  exact ⟨ready, tasks, rfl, hset⟩

theorem setAdmission (h : Alike i u w) (admission : Admission) :
    Alike i { u with admission := admission } { w with admission := admission } := by
  obtain ⟨ready, tasks, rfl, hset⟩ := h
  exact ⟨ready, tasks, rfl, hset⟩

/-! ### Strides of workers -/

section Workers

variable {k : Worker}

theorem endWorker (h : Alike i u w) (k : Worker) (stage : Stage) :
    (u.endWorker i k stage).loose = (w.endWorker i k stage).loose := by
  obtain ⟨ready, tasks, rfl, hset⟩ := h
  change { w with ready := [], tasks := tasks.set i _, log := _ :: w.log } = _
  rw [hset]
  rfl

theorem sleep (h : Alike i u w) (k : Worker) : (u.sleep i k).loose = (w.sleep i k).loose := by
  have hnow : u.now = w.now := h.now
  unfold World.sleep
  rw [hnow]
  exact loose_setTimer (h.put _) _ _

theorem callProvider (h : Alike i u w) (k : Worker) :
    (u.callProvider i k).loose = (w.callProvider i k).loose := by
  have hbegan := h.note .fetchBegan
  obtain ⟨ready, tasks, rfl, -⟩ := h
  unfold World.callProvider
  simp only [World.note] at hbegan ⊢
  split
  · exact loose_setTimer (hbegan.put _) _ _
  · exact loose_setTimer ((hbegan.setProviders _).put _) _ _

theorem strideAsking (h : Alike i u w) (k : Worker) :
    (u.strideAsking i k).loose = (w.strideAsking i k).loose := by
  have hasked := h.note .asked
  unfold World.strideAsking
  simp only [hasked.permits]
  split
  · exact hasked.endWorker k .cancelled
  · split
    · exact (hasked.setPermits _).callProvider k
    · exact (hasked.setPermits _).put _

theorem strideFiltering (h : Alike i u w) (k : Worker) (found : List Event) :
    (u.strideFiltering i k found).loose = (w.strideFiltering i k found).loose := by
  have hfiltered := (h.setAdmission (w.admission.filter found).2).note
    (.filtered k.name (w.admission.filter found).1
      (found.length - (w.admission.filter found).1.length))
  obtain ⟨ready, tasks, rfl, -⟩ := h
  unfold World.strideFiltering
  simp only
  split
  · exact hfiltered.sleep _
  · rw [loose_wake, loose_wake]
    exact hfiltered.put _

theorem strideFetched (h : Alike i u w) (k : Worker) (since : Nat) (outcome : FetchOutcome) :
    (u.strideFetched i k since outcome).loose = (w.strideFetched i k since outcome).loose := by
  have hended := h.releasePermit.note (.fetchEnded k.name (w.now - since) outcome)
  unfold World.strideFetched
  rw [h.now]
  cases outcome with simp only
  | events es => exact hended.strideFiltering _ _
  | crashed crash => exact hended.strideFiltering _ _
  | deadly => exact hended.endWorker _ _

theorem drive (h : Alike i u w) (event : Event) :
    Alike i (u.drive i event).1 (w.drive i event).1 ∧
      (u.drive i event).2 = (w.drive i event).2 := by
  obtain ⟨ready, tasks, rfl, -⟩ := id h
  unfold World.drive
  split
  · rcases w.bus.drive with ⟨bus, _ | ⟨ticket, count⟩, parties⟩
    · exact ⟨h.withBus bus parties, rfl⟩
    · exact ⟨(h.withBus bus parties).note _, rfl⟩
  · exact ⟨h, rfl⟩

theorem stridePublishing (h : Alike i u w) (k : Worker) (pending : List Event) :
    (u.stridePublishing i k pending).loose = (w.stridePublishing i k pending).loose := by
  cases pending with
  | nil => exact h.sleep k
  | cons e es =>
    have hposed : Alike i (u.pose i e) (w.pose i e) := by
      obtain ⟨ready, tasks, rfl, -⟩ := id h
      exact h.setBus _
    obtain ⟨halike, hsame⟩ := hposed.drive e
    simp only [World.stridePublishing]
    rcases hd : (w.pose i e).drive i e with ⟨w', result⟩
    rcases hd' : (u.pose i e).drive i e with ⟨u', result'⟩
    rw [hd, hd'] at halike hsame
    obtain rfl : result' = result := hsame
    replace halike : Alike i u' w' := halike
    cases result' with
    | none => exact halike.put _
    | some count =>
      have hpublished := halike.note (.published k.name e)
      cases es with
      | nil => exact hpublished.sleep _
      | cons e' es =>
        simp only
        rw [loose_wake, loose_wake]
        exact hpublished.put _

end Workers

/-! ### Strides of consumers -/

section Consumers

variable {c : Consumer}

theorem endConsumer (h : Alike i u w) (c : Consumer) (stage : ConsumerStage) :
    (u.endConsumer i c stage).loose = (w.endConsumer i c stage).loose := by
  obtain ⟨more, hu⟩ := endConsumer_eq u i c stage
  obtain ⟨more', hw⟩ := endConsumer_eq w i c stage
  obtain ⟨ready, tasks, rfl, hset⟩ := h
  rw [hu, hw, hset]
  rfl

/-- A consumer that finds nothing writes nothing. -/
theorem strideReceiving (h : Alike i u w) (c : Consumer)
    (htake : (w.bus.take c.queue).1 ≠ .nothing) :
    (u.strideReceiving i c).loose = (w.strideReceiving i c).loose := by
  unfold World.strideReceiving
  rw [h.bus]
  rcases hfound : w.bus.take c.queue with ⟨e | _ | _, bus, parties⟩
  · have htaken := (h.withBus bus parties).note (.taken e)
    simp only [htaken.now]
    exact loose_setTimer (htaken.put _) _ _
  · simp [hfound] at htake
  · exact h.endConsumer c .ended

theorem strideHandled (h : Alike i u w) (c : Consumer) (event : Event)
    (outcome : HandlingOutcome) :
    (u.strideHandled i c event outcome).loose = (w.strideHandled i c event outcome).loose := by
  have hhandled := h.note (.handled c.sink.name event outcome)
  unfold World.strideHandled
  simp only [finishHandling]
  split
  · exact hhandled.endConsumer _ .died
  · rw [loose_wake, loose_wake]
    exact hhandled.put _

end Consumers
end Alike

/-- **Nothing but the queue is different after a stride,** if nothing else was before. -/
theorem loose_stride (h : u.loose = w.loose) (i : Nat) :
    (u.stride i).loose = (w.stride i).loose := by
  have halike : Alike i u w := .of_loose h
  have htasks : u.tasks = w.tasks := by
    obtain ⟨ready, rfl⟩ := exists_of_loose h
    rfl
  unfold stride
  rw [htasks]
  rcases w.tasks[i]? with _ | k | c | ⟨event, stage⟩
  · exact h
  · simp only
    unfold strideWorker
    cases k.stage with simp only
    | ready => exact halike.strideAsking k
    | queued =>
      rw [halike.permits]
      split
      · exact halike.endWorker k .cancelled
      · split
        · exact (halike.setPermits _).callProvider k
        · exact h
    | fetching since due outcome =>
      rw [halike.now]
      split
      · exact halike.strideFetched k since outcome
      · exact h
    | publishing pending => exact halike.stridePublishing k pending
    | sleeping due =>
      rw [halike.now]
      split
      · exact halike.strideAsking k
      · exact h
    | cancelled => exact h
    | died => exact h
  · simp only
    unfold strideConsumer
    cases c.stage with simp only
    | receiving =>
      by_cases htake : (w.bus.take c.queue).1 = .nothing
      · have hnone (v : World) (hv : (v.bus.take c.queue).1 = .nothing) :
            v.strideReceiving i c = v := by
          unfold strideReceiving
          rcases hfound : v.bus.take c.queue with ⟨found, bus, parties⟩
          rw [hfound] at hv
          subst hv
          rfl
        rw [hnone u (halike.bus ▸ htake), hnone w htake]
        exact h
      · exact halike.strideReceiving c htake
    | handling e due outcome =>
      rw [halike.now]
      split
      · exact halike.strideHandled c e outcome
      · exact h
    | ended => exact h
    | died => exact h
  · exact h

/-! ### Rows of strides -/

/-- **A row of strides of one task** leads from one world to another. -/
def Leads (i : Nat) (w w' : World) : Prop :=
  ∃ count, w.goAll (List.replicate count (.stride i)) = w'.loose

namespace Leads

theorem of_loose (h : w.loose = w'.loose) : Leads i w w' := ⟨0, h⟩

theorem refl (i : Nat) (w : World) : Leads i w w := of_loose rfl

theorem congr (h : Leads i u w') (huw : w.loose = u.loose) : Leads i w w' := by
  obtain ⟨count, h⟩ := h
  refine ⟨count, ?_⟩
  unfold goAll at h ⊢
  rw [huw]
  exact h

/-- One stride more. -/
theorem stride (h : Leads i (w.stride i) w') : Leads i w w' := by
  obtain ⟨count, h⟩ := h
  refine ⟨count + 1, ?_⟩
  rw [List.replicate_succ, goAll_cons, go, loose_stride (u := w.loose) (w := w) rfl]
  exact h

end Leads

/-! ### A poll of a worker -/

section Workers

variable {k : Worker}

/-- A worker has come to a stage, and goes on from there. -/
theorem Leads.of_put_worker (hi : i < w.tasks.length) {k : Worker} {v : World}
    (hv : ((w.put i (.worker k)).strideWorker i k).loose = v.loose) (h : Leads i v w') :
    Leads i (w.put i (.worker k)) w' := by
  have ht : (w.put i (.worker k)).tasks[i]? = some (.worker k) := List.getElem?_set_self hi
  refine Leads.stride (h.congr ?_)
  unfold World.stride
  rw [ht]
  exact hv

/-- A publish that nobody has asked for is asked for. -/
theorem pose_of_notMem (h : i ∉ w.bus.waiting) (e : Event) : w.pose i e = w.request i e := by
  unfold pose request
  rw [Bus.pose_of_notMem h]

/-- **A worker publishes its events one after another.** -/
theorem leads_publish {e : Event} (es : List Event) (hi : i < w.tasks.length)
    (hb : w.bus.Sound) (hasked : w.bus.Poses i (some e)) (k : Worker) :
    Leads i (w.stridePublishing i k (e :: es)) ((w.pose i e).publish i k (e :: es)) := by
  induction es generalizing w e k with
  | nil =>
    simp only [stridePublishing, publish]
    rcases (w.pose i e).drive i e with ⟨w', _ | count⟩
    · exact .refl i _
    · exact .refl i _
  | cons e' es ih =>
    simp only [stridePublishing]
    rw [publish]
    rcases drive_cases (w.pose i e) i e with
      ⟨ticket, count, more, hholder, hdone, hd⟩ | ⟨bus, hbus, hd⟩
    · rw [hd]
      simp only
      generalize hv : World.note { w.pose i e with
        bus := (w.pose i e).bus.drive.1
        ready := (w.pose i e).ready ++ more
        log := ⟨(w.pose i e).now, i, .delivered e count⟩ :: (w.pose i e).log } i
          (.published k.name e) = v
      have hbus : v.bus = (w.pose i e).bus.drive.1 := hv ▸ rfl
      have hi' : i < v.tasks.length := hv ▸ hi
      -- Nothing is asked for after a publish, so the next stride asks for the next one.
      have hnone : i ∉ v.bus.waiting := by
        rw [hbus]
        exact ((hasked.pose hb).drive (hb.pose i e) hholder hdone).2.notMem_waiting
      have hrest := ih hi' (hbus ▸ (hb.pose i e).drive) (Bus.Poses.of_notMem hnone (some e'))
        { k with tally.published := k.tally.published + 1 }
      rw [pose_of_notMem hnone] at hrest
      refine Leads.congr ?_ (loose_wake _ i)
      exact Leads.of_put_worker hi' ((Alike.of_put v i _).stridePublishing _ _) hrest
    · rw [hd]
      exact .refl i _

/-- Where the worker comes from does not matter any more. -/
theorem strideFetched_stage (w : World) (i : Nat) (k : Worker) (stage : Stage) (since : Nat)
    (outcome : FetchOutcome) : w.strideFetched i { k with stage := stage } since outcome =
      w.strideFetched i k since outcome := by
  have hfiltering (v : World) (k : Worker) (found : List Event) :
      v.strideFiltering i { k with stage := stage } found = v.strideFiltering i k found := by
    unfold strideFiltering
    simp only
    split <;> rfl
  unfold strideFetched
  cases outcome with simp only
  | events es => exact hfiltering _ k es
  | crashed crash => exact hfiltering _ { k with tally.faults := k.tally.faults + 1 } []
  | deadly => rfl

/-- The events of a fetch are filtered, and published by the strides that follow. -/
theorem leads_sift (found : List Event) (hi : i < w.tasks.length) (hb : w.bus.Sound)
    (hout : i ∉ w.bus.waiting) (k : Worker) :
    Leads i (w.strideFiltering i k found) (w.sift i k found) := by
  unfold strideFiltering sift
  simp only
  rcases (w.admission.filter found).1 with _ | ⟨e, es⟩
  · exact .refl i _
  · generalize hv : World.note { w with admission := (w.admission.filter found).2 } i _ = v
    have hbus : v.bus = w.bus := hv ▸ rfl
    have hi' : i < v.tasks.length := hv ▸ hi
    rw [← hbus] at hb hout
    have hrest := leads_publish es hi' hb (Bus.Poses.of_notMem hout (some e)) { k with
      tally.fetched := k.tally.fetched + found.length
      tally.duplicates := k.tally.duplicates + (found.length - (e :: es).length) }
    rw [pose_of_notMem hout] at hrest
    refine Leads.congr ?_ (loose_wake _ i)
    exact Leads.of_put_worker hi' ((Alike.of_put v i _).stridePublishing _ _) hrest

theorem leads_finishFetch (since : Nat) (outcome : FetchOutcome) (hi : i < w.tasks.length)
    (hb : w.bus.Sound) (hout : i ∉ w.bus.waiting) (k : Worker) :
    Leads i (w.strideFetched i k since outcome) (w.finishFetch i k since outcome) := by
  have hi' : i < w.releasePermit.tasks.length := by rwa [tasks_releasePermit]
  rw [← bus_releasePermit] at hb hout
  unfold strideFetched finishFetch
  cases outcome with simp only
  | events es => exact leads_sift (w := w.releasePermit.note i _) _ hi' hb hout _
  | crashed crash => exact leads_sift (w := w.releasePermit.note i _) _ hi' hb hout _
  | deadly => exact .refl i _

/-- A provider that answers at once has the worker go on at once. -/
theorem leads_beginFetch (hi : i < w.tasks.length) (hb : w.bus.Sound)
    (hout : i ∉ w.bus.waiting) (k : Worker) :
    Leads i (w.callProvider i k) (w.beginFetch i k) := by
  -- The timer is due at once, so the next stride finishes the fetch.
  have hrest {v : World} (hlt : i < v.tasks.length) (hbus : v.bus = w.bus) (k : Worker)
      (outcome : FetchOutcome) : Leads i ((v.put i (.worker { k with
        stage := .fetching v.now v.now outcome })).setTimer i v.now)
        (v.finishFetch i k v.now outcome) := by
    refine Leads.congr ?_ (loose_setTimer_of_le _ i (Nat.le_refl _))
    refine Leads.of_put_worker hlt ?_ (leads_finishFetch v.now outcome hlt (hbus ▸ hb)
      (hbus ▸ hout) k)
    refine (congrArg loose (if_pos (Nat.le_refl v.now))).trans ?_
    rw [(Alike.of_put v i _).strideFetched, strideFetched_stage]
  unfold callProvider beginFetch
  simp only
  rcases (w.note i .fetchBegan).providers[k.source]? with _ | p
  · exact hrest (v := w.note i .fetchBegan) hi rfl { k with tally.cycles := k.tally.cycles + 1 } _
  · simp only
    split
    · rename_i hdelay
      rw [hdelay, Nat.add_zero]
      exact hrest (v := { w.note i .fetchBegan with providers := _ }) hi rfl
        { k with tally.cycles := k.tally.cycles + 1 } _
    · exact .refl i _

theorem leads_askPermit (hi : i < w.tasks.length) (hb : w.bus.Sound)
    (hout : i ∉ w.bus.waiting) (k : Worker) :
    Leads i (w.strideAsking i k) (w.askPermit i k) := by
  unfold strideAsking askPermit
  simp only
  split
  · exact .refl i _
  · rcases (w.note i .asked).permits.take? with _ | permits
    · exact .refl i _
    · exact leads_beginFetch (w := { w.note i .asked with permits := permits }) hi hb hout k

/-- **A poll of a worker is a row of strides.** -/
theorem leads_pollWorker {lost : Nat → List Event} (hb : Balanced lost w)
    (hk : w.tasks[i]? = some (.worker k)) (hstop : w.signal.isStop = false) :
    Leads i w (w.pollWorker i k) := by
  have hi := (List.getElem?_eq_some_iff.1 hk).1
  have hsound := hb.ledger.sound
  have hheld := heldBy_of_getElem? hk
  have hout (hnil : k.stage.held = []) : i ∉ w.bus.waiting :=
    Bus.Poses.notMem_waiting fun p hp hpi => by
      have hasked := (hb.ledger.pending p).1 hp
      unfold posedBy at hasked
      rw [hpi, hheld] at hasked
      rw [← hasked]
      exact (congrArg List.head? hnil).symm
  have hstride : w.stride i = w.strideWorker i k := by
    unfold stride
    rw [hk]
  unfold pollWorker
  rw [hstop, if_neg Bool.false_ne_true]
  unfold strideWorker at hstride
  cases hs : k.stage with (simp only [hs] at hstride ⊢)
  | ready =>
    refine Leads.stride ?_
    rw [hstride]
    exact leads_askPermit hi hsound (hout (congrArg Stage.held hs)) k
  | queued =>
    refine Leads.stride ?_
    rw [hstride]
    split
    · exact .refl i _
    · rcases w.permits.collect? i with _ | permits
      · exact .refl i w
      · exact leads_beginFetch (w := { w with permits := permits }) hi hsound
          (hout (congrArg Stage.held hs)) k
  | fetching since due outcome =>
    refine Leads.stride ?_
    rw [hstride]
    split
    · exact leads_finishFetch since outcome hi hsound (hout (congrArg Stage.held hs)) k
    · exact .refl i w
  | publishing pending =>
    refine Leads.stride ?_
    rw [hstride]
    cases pending with
    | nil => exact .refl i _
    | cons e es =>
      -- The bus was asked for the first of the events before.
      replace hheld : w.heldBy i = e :: es := hheld.trans (congrArg Stage.held hs)
      have hmem : i ∈ w.bus.waiting := by
        rw [Bus.waiting_eq]
        exact List.mem_map.2 ⟨⟨i, e⟩, (hb.ledger.pending ⟨i, e⟩).2 (congrArg List.head? hheld), rfl⟩
      have hsame : w.pose i e = w := by
        unfold pose
        rw [Bus.pose_of_mem hmem]
      have hrest := leads_publish es hi hsound ((Kept.of_balanced hb).poses hheld) k
      rwa [hsame] at hrest
  | sleeping due =>
    refine Leads.stride ?_
    rw [hstride]
    split
    · exact leads_askPermit hi hsound (hout (congrArg Stage.held hs)) k
    · exact .refl i w
  | cancelled => exact .refl i w
  | died => exact .refl i w

end Workers

/-! ### A poll of a consumer -/

section Consumers

variable {c : Consumer}

theorem Leads.of_put_consumer (hi : i < w.tasks.length) {c : Consumer} {v : World}
    (hv : ((w.put i (.consumer c)).strideConsumer i c).loose = v.loose) (h : Leads i v w') :
    Leads i (w.put i (.consumer c)) w' := by
  have ht : (w.put i (.consumer c)).tasks[i]? = some (.consumer c) := List.getElem?_set_self hi
  refine Leads.stride (h.congr ?_)
  unfold World.stride
  rw [ht]
  exact hv

/-- **A consumer takes events one after another,** and hands each to the sink. -/
theorem leads_receive (most : Nat) (hi : i < w.tasks.length) (hs : c.stage = .receiving) :
    Leads i (w.put i (.consumer c)) (w.receive i c most) := by
  induction most generalizing w c with
  | zero => exact .refl i _
  | succ most ih =>
    -- Unless there is nothing to take, the consumer makes a stride.
    have hstride (hsome : (w.bus.take c.queue).1 ≠ .nothing) :
        ((w.put i (.consumer c)).strideConsumer i c).loose = (w.strideReceiving i c).loose := by
      unfold strideConsumer
      simp only [hs]
      exact (Alike.of_put w i _).strideReceiving c hsome
    unfold receive
    rcases htake : w.bus.take c.queue with ⟨e | _ | _, bus, parties⟩
    · refine Leads.of_put_consumer hi (hstride (by simp [htake])) ?_
      unfold strideReceiving
      rw [htake]
      simp only
      have hlt : i < ((w.withBus bus parties).note i (.taken e)).tasks.length := by
        obtain ⟨more, heq⟩ := withBus_eq w bus parties
        rw [heq]
        exact hi
      generalize (w.withBus bus parties).note i (.taken e) = v at hlt
      by_cases hdelay : (c.sink.handle c.tally.received e).delay = 0
      · rw [if_pos hdelay, hdelay, Nat.add_zero]
        refine Leads.congr ?_ (loose_setTimer_of_le _ i (Nat.le_refl _))
        refine Leads.of_put_consumer hlt ((congrArg loose (if_pos (Nat.le_refl v.now))).trans
          ((Alike.of_put v i _).strideHandled _ _ _)) ?_
        unfold strideHandled
        simp only
        split
        · exact .refl i _
        · exact (ih (w := v.note i _) hlt rfl).congr (loose_wake _ i)
      · rw [if_neg hdelay]
        exact .refl i _
    · exact .refl i _
    · refine Leads.of_put_consumer hi (hstride (by simp [htake])) ?_
      unfold strideReceiving
      rw [htake]
      exact .refl i _

theorem put_self (hc : w.tasks[i]? = some t) : w.put i t = w := by
  obtain ⟨hi, rfl⟩ := List.getElem?_eq_some_iff.1 hc
  unfold put
  rw [List.set_getElem_self]

/-- **A poll of a consumer is a row of strides.** -/
theorem leads_pollConsumer (hc : w.tasks[i]? = some (.consumer c))
    (hstop : w.signal.isStop = false) : Leads i w (w.pollConsumer i c) := by
  have hi := (List.getElem?_eq_some_iff.1 hc).1
  have hstride : w.stride i = w.strideConsumer i c := by
    unfold stride
    rw [hc]
  unfold pollConsumer
  rw [hstop, if_neg Bool.false_ne_true]
  unfold strideConsumer at hstride
  cases hs : c.stage with (simp only [hs] at hstride ⊢)
  | receiving =>
    have hrest := leads_receive (w.backlog c.queue + 1) hi hs
    rwa [put_self hc] at hrest
  | handling e due outcome =>
    refine Leads.stride ?_
    rw [hstride]
    split
    · unfold strideHandled
      simp only
      split
      · exact .refl i _
      · exact (leads_receive (w := w.note i _) _ hi rfl).congr (loose_wake _ i)
    · exact .refl i w
  | ended => exact .refl i w
  | died => exact .refl i w

end Consumers

/-! ### A run on one thread -/

theorem Move.isForeign_of_isInner {m : Move} (h : m.isInner = true) : m.isForeign = false := by
  cases m <;> simp_all [isInner, isForeign]

/-- **A poll is a row of strides,** as long as there is no stop. -/
theorem leads_poll {lost : Nat → List Event} (hb : Balanced lost w)
    (hstop : w.signal.isStop = false) (i : Nat) : Leads i w (w.poll i) := by
  unfold poll
  rcases ht : w.tasks[i]? with _ | t
  · exact .refl i w
  · simp only
    split
    · exact .refl i w
    · cases t with
      | worker k => exact leads_pollWorker hb ht hstop
      | consumer c => exact leads_pollConsumer ht hstop
      | publisher event stage => exact absurd ht (hb.ours i event stage)

/-- **Whatever happens on one thread before a stop** can happen on several. -/
theorem exists_motions {lost : Nat → List Event} (hb : Balanced lost w)
    (hstop : w.signal.isStop = false) {moves : List Move} (hm : ∀ m ∈ moves, m.isInner = true) :
    ∃ motions : List Motion, (∀ m ∈ motions, m.isFree = true) ∧
      w.goAll motions = (w.run moves).loose := by
  induction moves generalizing w lost with
  | nil => exact ⟨[], by simp, rfl⟩
  | cons m moves ih =>
    obtain ⟨hm, hmoves⟩ := List.forall_mem_cons.1 hm
    obtain ⟨lost', hb', -⟩ := hb.act (Move.isForeign_of_isInner hm)
    have hstop' : (w.act m).signal.isStop = false := by
      rw [signal_act]
      cases m <;> simp_all [Move.isInner, Move.gives]
    obtain ⟨later, hlater, hrun⟩ := ih hb' hstop' hmoves
    -- One move is some motions.
    obtain ⟨first, hfirst, hact⟩ : ∃ first : List Motion, (∀ m ∈ first, m.isFree = true) ∧
        w.goAll first = (w.act m).loose := by
      cases m with
      | poll i =>
        have hsame : Balanced lost { w with ready := w.ready.erase i } :=
          hb.of_same rfl rfl rfl rfl
        obtain ⟨count, hcount⟩ := leads_poll hsame hstop i
        exact ⟨_, fun m hm => by rw [List.eq_of_mem_replicate hm]; rfl, hcount⟩
      | clock moment => exact ⟨[.move (.clock moment)], by simp [Motion.isFree], rfl⟩
      | fire moment =>
        exact ⟨[.move (.fire moment)], by simp [Motion.isFree], loose_fire w.loose_loose moment⟩
      | _ => simp [Move.isInner] at hm
    refine ⟨first ++ later, List.forall_mem_append.2 ⟨hfirst, hlater⟩, ?_⟩
    rw [goAll_append, hact]
    exact hrun

/-- A poll after a stop does not look at the queue. -/
theorem loose_poll (h : u.loose = w.loose) (hstop : w.signal.isStop = true)
    (hours : ∀ event stage, w.tasks[i]? ≠ some (.publisher event stage)) :
    (u.poll i).loose = (w.poll i).loose := by
  have halike : Alike i u w := .of_loose h
  obtain ⟨htasks, hsignal⟩ : u.tasks = w.tasks ∧ u.signal = w.signal := by
    obtain ⟨ready, rfl⟩ := exists_of_loose h
    exact ⟨rfl, rfl⟩
  unfold poll
  rw [htasks]
  rcases ht : w.tasks[i]? with _ | t
  · exact h
  · simp only
    split
    · exact h
    · cases t with
      | worker k =>
        simp only [pollWorker, hsignal, hstop, if_true]
        unfold stopWorker
        cases k.stage with simp only
        | queued =>
          rw [halike.permits]
          exact (halike.withPermits _ _).endWorker k .cancelled
        | fetching since due outcome =>
          exact (halike.releasePermit.note .fetchAbandoned).endWorker k .cancelled
        | publishing pending =>
          unfold cancelPublish
          rw [halike.bus]
          exact (halike.withBus _ _).endWorker k .cancelled
        | ready => exact halike.endWorker k .cancelled
        | sleeping due => exact halike.endWorker k .cancelled
        | cancelled => exact halike.endWorker k .cancelled
        | died => exact halike.endWorker k .cancelled
      | consumer c =>
        simp only [pollConsumer, hsignal, hstop, if_true]
        exact halike.endConsumer c .ended
      | publisher event stage => exact absurd ht (hours event stage)

/-- **What happens on one thread after a stop** happens on several as well. -/
theorem goAll_moves {lost : Nat → List Event} (hb : Balanced lost w)
    (hstop : w.signal.isStop = true) {moves : List Move} (hm : ∀ m ∈ moves, m.isInner = true) :
    w.goAll (moves.map .move) = (w.run moves).loose := by
  induction moves generalizing w lost with
  | nil => rfl
  | cons m moves ih =>
    obtain ⟨hm, hmoves⟩ := List.forall_mem_cons.1 hm
    obtain ⟨lost', hb', -⟩ := hb.act (Move.isForeign_of_isInner hm)
    have hstop' : (w.act m).signal.isStop = true := by
      rw [signal_act]
      cases m <;> simp_all [Move.isInner, Move.gives]
    have hact : w.loose.go (.move m) = (w.act m).loose := by
      cases m with
      | poll i => exact loose_poll (w := { w with ready := w.ready.erase i }) rfl hstop (hb.ours i)
      | clock moment => rfl
      | fire moment => exact loose_fire w.loose_loose moment
      | _ => simp [Move.isInner] at hm
    rw [List.map_cons, goAll_cons, hact]
    exact ih hb' hstop' hmoves

end World
end StatusRelay
