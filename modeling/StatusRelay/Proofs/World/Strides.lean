/-
# What a stride comes to

A stride changes one task, and perhaps the bus and the store, and tells of it. `Task.Strides` says
everything that can come out, and `stride_cases` that nothing else can. Permits, providers, timers
and the queue of tasks change along with it.

| stride | held before | held after | told |
| --- | --- | --- | --- |
| `bare` | nothing | nothing | occurrences that name no event |
| `filters` | nothing | what was new in a fetch | the end of the fetch, what was new |
| `waits` | events | the same events | |
| `publishes` | events | all but the first | a delivery |
-/

import StatusRelay.Proofs.World.Feeding
import StatusRelay.World.Strides

namespace StatusRelay

/-! ### Occurrences that name no event -/

namespace Occurrence

/-- Whether an occurrence of a worker names no event. -/
def isBare : Occurrence → Bool
  | asked | fetchBegan | fetchAbandoned | ended => true
  | fetchEnded _ _ outcome => outcome.found.isEmpty
  | _ => false

theorem views_of_isBare {what : Occurrence} (h : what.isBare = true) :
    what.onTheWay = [] ∧ what.received = [] := by
  cases what with
  | fetchEnded name elapsed outcome =>
    have hfound : outcome.found = [] := List.isEmpty_iff.1 h
    exact ⟨by simp [onTheWay, found, fresh, sent, hfound], rfl⟩
  | _ => first | exact ⟨rfl, rfl⟩ | simp [isBare] at h

theorem published_add_of_isBare {what : Occurrence} (h : what.isBare = true) (t : WorkerTally) :
    (t.add what).published = t.published := by
  cases what with
  | fetchEnded name elapsed outcome =>
    simp only [WorkerTally.add]
    split <;> rfl
  | _ => first | rfl | simp [isBare] at h

end Occurrence

namespace WorkerTally

/-- The counts of a worker after some occurrences, the latest first. -/
def addAll (t : WorkerTally) (told : List Occurrence) : WorkerTally :=
  told.foldr (fun what t => t.add what) t

/-- What was fetched is what was new and what was not. -/
theorem add_filtered (t : WorkerTally) (name : String) {fresh found : List Event}
    (h : fresh.length ≤ found.length) : t.add (.filtered name fresh (found.length - fresh.length)) =
      { t with
        fetched := t.fetched + found.length
        duplicates := t.duplicates + (found.length - fresh.length) } := by
  simp only [add, Nat.add_sub_cancel' h]

end WorkerTally

/-! ### What comes out of a stride -/

/-- **What a stride makes of a task,** of the bus and of the store, and what is told of it, the
latest first. -/
inductive Task.Strides (i : Nat) (b : Bus) (s : Admission) :
    Task → Task → Bus → Admission → List Occurrence → Prop
  | bare (k : Worker) (stage : Stage) (told : List Occurrence) (hheld : k.stage.held = [])
      (hstage : stage.held = []) (htold : ∀ what ∈ told, what.isBare = true) :
      Strides i b s (.worker k)
        (.worker { k with stage := stage, tally := k.tally.addAll told }) b s told
  | filters (k : Worker) (stage : Stage) (elapsed : Nat) (outcome : FetchOutcome)
      (told : List Occurrence) (hheld : k.stage.held = [])
      (hstage : stage.held = (s.filter outcome.found).1)
      (htold : told = [.filtered k.name (s.filter outcome.found).1
          (outcome.found.length - (s.filter outcome.found).1.length),
        .fetchEnded k.name elapsed outcome]) :
      Strides i b s (.worker k)
        (.worker { k with stage := stage, tally := k.tally.addAll told }) b
        (s.filter outcome.found).2 told
  | waits (k : Worker) {e : Event} {es : List Event} (hs : k.stage = .publishing (e :: es))
      {b' : Bus} (hb : b' = b.pose i e ∨
        (b.pose i e).drive.2.1 = none ∧ b' = (b.pose i e).drive.1) :
      Strides i b s (.worker k) (.worker k) b' s []
  | publishes (k : Worker) {e : Event} {es : List Event} (hs : k.stage = .publishing (e :: es))
      (stage : Stage) (hstage : stage.held = es) {ticket count : Nat}
      (hholder : (b.pose i e).gate.holder? = some i)
      (hdone : (b.pose i e).drive.2.1 = some (ticket, count)) :
      Strides i b s (.worker k)
        (.worker { k with stage := stage, tally.published := k.tally.published + 1 })
        (b.pose i e).drive.1 s [.published k.name e, .delivered e count]
  | takes (c : Consumer) (hs : c.stage = .receiving) {e : Event} {b' : Bus} {parties : List Wake}
      (htake : b.take c.queue = (.event e, b', parties)) (due : Nat) (outcome : HandlingOutcome) :
      Strides i b s (.consumer c) (.consumer { c with
        stage := .handling e due outcome
        tally.received := c.tally.received + 1 }) b' s [.taken e]
  | leaves (c : Consumer) (hs : c.stage = .receiving) (hclosed : (b.take c.queue).1 = .closed) :
      Strides i b s (.consumer c) (.consumer { c with stage := .ended })
        (b.unsubscribe c.queue).1 s [.ended]
  | handles (c : Consumer) {e : Event} {due : Nat} {outcome : HandlingOutcome}
      (hs : c.stage = .handling e due outcome) :
      Strides i b s (.consumer c) (.consumer { c with
        stage := .receiving
        tally := c.tally.add (.handled c.sink.name e outcome) }) b s
        [.handled c.sink.name e outcome]
  | perishes (c : Consumer) {e : Event} {due : Nat} {outcome : HandlingOutcome}
      (hs : c.stage = .handling e due outcome) :
      Strides i b s (.consumer c) (.consumer { c with
        stage := .died
        tally := c.tally.add (.handled c.sink.name e outcome) }) (b.unsubscribe c.queue).1 s
        [.ended, .handled c.sink.name e outcome]

namespace World

variable {w w' : World} {i : Nat} {t t' : Task} {told : List Occurrence}

/-- **A task has made a stride,** and is another one now. -/
structure Strode (i : Nat) (w w' : World) (t t' : Task) (told : List Occurrence) : Prop where
  found : w.tasks[i]? = some t
  going : t.isOver = false
  strides : t.Strides i w.bus w.admission t' w'.bus w'.admission told
  tasks : w'.tasks = w.tasks.set i t'
  log : w'.log = told.map (⟨w.now, i, ·⟩) ++ w.log
  ready : w.ready ⊆ w'.ready
  signal : w'.signal = w.signal

namespace Strode

theorem setTimer (task due : Nat) (h : Strode i w w' t t' told) :
    Strode i w (w'.setTimer task due) t t' told := by
  obtain ⟨more, timers, hw⟩ := setTimer_eq w' task due
  rw [hw]
  exact ⟨h.found, h.going, h.strides, h.tasks, h.log,
    fun j hj => List.mem_append_left _ (h.ready hj), h.signal⟩

theorem wake (task : Nat) (h : Strode i w w' t t' told) : Strode i w (w'.wake task) t t' told := by
  obtain ⟨more, hw, -⟩ := wake_eq w' task
  rw [hw]
  exact ⟨h.found, h.going, h.strides, h.tasks, h.log,
    fun j hj => List.mem_append_left _ (h.ready hj), h.signal⟩

end Strode

/-- **A task is in the middle of a stride:** it has told of something, and is as it was. -/
structure Midway (i : Nat) (w w' : World) (told : List Occurrence) : Prop where
  now : w'.now = w.now
  tasks : w'.tasks = w.tasks
  log : w'.log = told.map (⟨w.now, i, ·⟩) ++ w.log
  ready : w.ready ⊆ w'.ready
  signal : w'.signal = w.signal

/-- Neither the bus nor the store has changed, and no event was named. -/
structure Bare (i : Nat) (w w' : World) (told : List Occurrence) : Prop
    extends Midway i w w' told where
  bus : w'.bus = w.bus
  admission : w'.admission = w.admission
  silent : ∀ what ∈ told, what.isBare = true

namespace Midway

theorem refl (i : Nat) (w : World) : Midway i w w [] := ⟨rfl, rfl, rfl, fun _ h => h, rfl⟩

/-- What changes of a world besides does not matter. -/
theorem congr {w'' : World} (h : Midway i w w' told) (hnow : w''.now = w'.now)
    (htasks : w''.tasks = w'.tasks) (hlog : w''.log = w'.log) (hready : w'.ready ⊆ w''.ready)
    (hsignal : w''.signal = w'.signal) : Midway i w w'' told :=
  ⟨hnow.trans h.now, htasks.trans h.tasks, hlog.trans h.log, fun _ hj => hready (h.ready hj),
    hsignal.trans h.signal⟩

theorem note (h : Midway i w w' told) (what : Occurrence) :
    Midway i w (w'.note i what) (what :: told) := by
  refine ⟨h.now, h.tasks, ?_, h.ready, h.signal⟩
  change ⟨w'.now, i, what⟩ :: w'.log = _
  rw [h.log, h.now]
  rfl

/-- The stride ends with a change of the task. -/
theorem put (h : Midway i w w' told) (ht : w.tasks[i]? = some t) (hgoing : t.isOver = false)
    {bus : Bus} {admission : Admission}
    (hs : t.Strides i w.bus w.admission t' bus admission told) (hbus : w'.bus = bus)
    (hadmission : w'.admission = admission) : Strode i w (w'.put i t') t t' told := by
  subst hbus hadmission
  refine ⟨ht, hgoing, hs, ?_, h.log, h.ready, h.signal⟩
  change w'.tasks.set i t' = _
  rw [h.tasks]

end Midway

namespace Bare

theorem refl (i : Nat) (w : World) : Bare i w w [] := ⟨Midway.refl i w, rfl, rfl, by simp⟩

theorem note (h : Bare i w w' told) (what : Occurrence) (hwhat : what.isBare = true) :
    Bare i w (w'.note i what) (what :: told) :=
  ⟨h.toMidway.note what, h.bus, h.admission, List.forall_mem_cons.2 ⟨hwhat, h.silent⟩⟩

theorem withPermits (h : Bare i w w' told) (permits : Permits) (given : Option Nat) :
    Bare i w (w'.withPermits permits given) told := by
  obtain ⟨more, hw⟩ := withPermits_eq w' permits given
  rw [hw]
  exact ⟨h.congr rfl rfl rfl (List.subset_append_left _ _) rfl, h.bus, h.admission, h.silent⟩

theorem setPermits (h : Bare i w w' told) (permits : Permits) :
    Bare i w { w' with permits := permits } told :=
  ⟨h.toMidway.congr rfl rfl rfl (List.Subset.refl _) rfl, h.bus, h.admission, h.silent⟩

theorem setProviders (h : Bare i w w' told) (providers : List Provider) :
    Bare i w { w' with providers := providers } told :=
  ⟨h.toMidway.congr rfl rfl rfl (List.Subset.refl _) rfl, h.bus, h.admission, h.silent⟩

/-- A worker that holds nothing comes to another stage, and holds nothing there. -/
theorem put (h : Bare i w w' told) {k k' : Worker} (hk : w.tasks[i]? = some (.worker k))
    (hgoing : k.stage.isOver = false) (hheld : k.stage.held = []) (hstage : k'.stage.held = [])
    (hk' : k' = { k with stage := k'.stage, tally := k.tally.addAll told }) :
    Strode i w (w'.put i (.worker k')) (.worker k) (.worker k') told := by
  rw [hk']
  exact h.toMidway.put hk hgoing (.bare k _ told hheld hstage h.silent) h.bus h.admission

end Bare

/-! ### Workers -/

section Workers

variable {k k' : Worker}

theorem Bare.endWorker (h : Bare i w w' told) (hk : w.tasks[i]? = some (.worker k))
    (hgoing : k.stage.isOver = false) (hheld : k.stage.held = []) {stage : Stage}
    (hstage : stage.held = [])
    (hk' : k' = { k with stage := k'.stage, tally := k.tally.addAll told }) :
    ∃ t t' told, Strode i w (w'.endWorker i k' stage) t t' told := by
  refine ⟨_, .worker { k' with stage := stage }, _,
    (h.note .ended rfl).put hk hgoing hheld hstage ?_⟩
  rw [hk']
  rfl

theorem strode_callProvider (h : Bare i w w' told) (hk : w.tasks[i]? = some (.worker k))
    (hgoing : k.stage.isOver = false) (hheld : k.stage.held = [])
    (htally : k.tally.addAll told = k.tally) :
    ∃ t t' told, Strode i w (w'.callProvider i k) t t' told := by
  have hbegan := h.note .fetchBegan rfl
  have hcounted : k.tally.addAll (.fetchBegan :: told) =
      { k.tally with cycles := k.tally.cycles + 1 } := by
    change (k.tally.addAll told).add .fetchBegan = _
    rw [htally]
    rfl
  unfold callProvider
  simp only
  split
  · refine ⟨_, _, _, (hbegan.put hk hgoing hheld ?_ ?_).setTimer _ _⟩
    · rfl
    · rw [hcounted]
  · rename_i p _
    have hasked := hbegan.setProviders
      ((w'.note i .fetchBegan).providers.set k.source { p with calls := p.calls + 1 })
    refine ⟨_, _, _, (hasked.put hk hgoing hheld ?_ ?_).setTimer _ _⟩
    · rfl
    · rw [hcounted]

theorem strode_asking (hk : w.tasks[i]? = some (.worker k)) (hgoing : k.stage.isOver = false)
    (hheld : k.stage.held = []) : ∃ t t' told, Strode i w (w.strideAsking i k) t t' told := by
  have hasked := (Bare.refl i w).note .asked rfl
  unfold strideAsking
  simp only
  split
  · exact hasked.endWorker hk hgoing hheld rfl rfl
  · split
    · exact strode_callProvider (hasked.setPermits _) hk hgoing hheld rfl
    · refine ⟨_, _, _, (hasked.setPermits _).put hk hgoing hheld ?_ ?_⟩
      · rfl
      · rfl

/-- The events of a fetch are filtered, and those that are new are held. -/
theorem strode_filtering (hk : w.tasks[i]? = some (.worker k)) (hgoing : k.stage.isOver = false)
    (hheld : k.stage.held = []) {elapsed : Nat} (outcome : FetchOutcome) (h : Bare i w w' [])
    (hk' : k' = { k with tally := k.tally.add (.fetchEnded k.name elapsed outcome) }) :
    ∃ t t' told, Strode i w ((w'.note i (.fetchEnded k.name elapsed outcome)).strideFiltering i k'
      outcome.found) t t' told := by
  have hle := (Admission.filter_sublist w.admission outcome.found).length_le
  have hadmission : (w'.note i (.fetchEnded k.name elapsed outcome)).admission = w.admission :=
    h.admission
  have hadmitted : Midway i w { w'.note i (.fetchEnded k.name elapsed outcome) with
      admission := (w.admission.filter outcome.found).2 } [.fetchEnded k.name elapsed outcome] :=
    (h.toMidway.note _).congr rfl rfl rfl (List.Subset.refl _) rfl
  have hfiltered := hadmitted.note (.filtered k.name (w.admission.filter outcome.found).1
    (outcome.found.length - (w.admission.filter outcome.found).1.length))
  have htally : k.tally.addAll [.filtered k.name (w.admission.filter outcome.found).1
      (outcome.found.length - (w.admission.filter outcome.found).1.length),
      .fetchEnded k.name elapsed outcome] = _ :=
    WorkerTally.add_filtered (k.tally.add (.fetchEnded k.name elapsed outcome)) k.name hle
  have hput (stage : Stage) (hstage : stage.held = (w.admission.filter outcome.found).1) :=
    hfiltered.put hk hgoing (.filters k stage elapsed outcome _ hheld hstage rfl) h.bus rfl
  simp only [htally] at hput
  subst hk'
  unfold strideFiltering
  simp only [hadmission]
  split
  · rename_i hnone
    exact ⟨_, _, _, (hput (.sleeping _) hnone.symm).setTimer _ _⟩
  · exact ⟨_, _, _, (hput (.publishing _) rfl).wake _⟩

theorem strode_fetched (hk : w.tasks[i]? = some (.worker k)) (hgoing : k.stage.isOver = false)
    (hheld : k.stage.held = []) (since : Nat) (outcome : FetchOutcome) :
    ∃ t t' told, Strode i w (w.strideFetched i k since outcome) t t' told := by
  have hback := (Bare.refl i w).withPermits w.permits.release.1 w.permits.release.2
  unfold strideFetched
  cases outcome with simp only
  | events es => exact strode_filtering hk hgoing hheld (.events es) hback rfl
  | crashed crash => exact strode_filtering hk hgoing hheld (.crashed crash) hback rfl
  | deadly =>
    have hended := hback.note (.fetchEnded k.name (w.now - since) .deadly) rfl
    refine hended.endWorker hk hgoing hheld ?_ ?_
    · rfl
    · rfl

/-- The first event is published, or the worker waits with all that it holds. -/
theorem strode_publishing {pending : List Event} (hk : w.tasks[i]? = some (.worker k))
    (hs : k.stage = .publishing pending) :
    ∃ t t' told, Strode i w (w.stridePublishing i k pending) t t' told := by
  have hgoing : k.stage.isOver = false := by
    rw [hs]
    rfl
  cases pending with
  | nil =>
    refine ⟨_, _, _, ((Bare.refl i w).put hk hgoing ?_ ?_ ?_).setTimer _ _⟩
    · rw [hs]
      rfl
    · rfl
    · rfl
  | cons e es =>
    simp only [stridePublishing]
    rcases drive_cases (w.pose i e) i e with
      ⟨ticket, count, more, hholder, hdone, hd⟩ | ⟨bus, hbus, hd⟩
    · have hdelivered : Midway i w { w.pose i e with
          bus := (w.pose i e).bus.drive.1
          ready := w.ready ++ more
          log := ⟨w.now, i, .delivered e count⟩ :: w.log } [.delivered e count] :=
        ⟨rfl, rfl, rfl, List.subset_append_left _ _, rfl⟩
      have hput (stage : Stage) (hstage : stage.held = es) :=
        (hdelivered.note (.published k.name e)).put hk hgoing
          (.publishes k hs stage hstage hholder hdone) rfl rfl
      rw [hd]
      cases es with
      | nil => exact ⟨_, _, _, (hput (.sleeping _) rfl).setTimer _ _⟩
      | cons e' es => exact ⟨_, _, _, (hput (.publishing (e' :: es)) rfl).wake _⟩
    · have hwaits : Midway i w { w.pose i e with bus := bus } [] :=
        ⟨rfl, rfl, rfl, List.Subset.refl _, rfl⟩
      rw [hd, ← hs]
      exact ⟨_, _, _, hwaits.put hk hgoing (.waits k hs hbus) rfl rfl⟩

theorem strode_worker (hk : w.tasks[i]? = some (.worker k)) :
    w.strideWorker i k = w ∨ ∃ t t' told, Strode i w (w.strideWorker i k) t t' told := by
  unfold strideWorker
  rcases hs : k.stage with _ | _ | ⟨since, due, outcome⟩ | pending | due | _ | _
  case ready => exact Or.inr (strode_asking hk (by rw [hs]; rfl) (by rw [hs]; rfl))
  case queued =>
    simp only
    split
    · exact Or.inr ((Bare.refl i w).endWorker hk (by rw [hs]; rfl) (by rw [hs]; rfl) rfl rfl)
    · split
      · exact Or.inr (strode_callProvider ((Bare.refl i w).setPermits _) hk (by rw [hs]; rfl)
          (by rw [hs]; rfl) rfl)
      · exact Or.inl rfl
  case fetching =>
    simp only
    split
    · exact Or.inr (strode_fetched hk (by rw [hs]; rfl) (by rw [hs]; rfl) since outcome)
    · exact Or.inl rfl
  case publishing => exact Or.inr (strode_publishing hk hs)
  case sleeping =>
    simp only
    split
    · exact Or.inr (strode_asking hk (by rw [hs]; rfl) (by rw [hs]; rfl))
    · exact Or.inl rfl
  case cancelled => exact Or.inl rfl
  case died => exact Or.inl rfl

end Workers

/-! ### Consumers -/

section Consumers

variable {c c' : Consumer}

/-- A consumer ends, and lets go of its subscription. -/
theorem Midway.endConsumer (h : Midway i w w' told) (hc : w.tasks[i]? = some (.consumer c))
    (hgoing : c.stage.isOver = false) (hbus : w'.bus = w.bus)
    (hadmission : w'.admission = w.admission) {stage : ConsumerStage}
    (hs : (Task.consumer c).Strides i w.bus w.admission (.consumer { c' with stage := stage })
      (w.bus.unsubscribe c'.queue).1 w.admission (.ended :: told)) :
    ∃ t t' told, Strode i w (w'.endConsumer i c' stage) t t' told := by
  obtain ⟨more, heq⟩ := endConsumer_eq w' i c' stage
  have hended : Midway i w { w'.note i .ended with
      bus := (w'.bus.unsubscribe c'.queue).1
      ready := w'.ready ++ more } (.ended :: told) :=
    (h.note .ended).congr rfl rfl rfl (List.subset_append_left _ _) rfl
  rw [heq]
  refine ⟨_, _, _, hended.put hc hgoing hs ?_ hadmission⟩
  change (w'.bus.unsubscribe c'.queue).1 = _
  rw [hbus]

theorem strode_receiving (hc : w.tasks[i]? = some (.consumer c)) (hs : c.stage = .receiving) :
    w.strideReceiving i c = w ∨ ∃ t t' told, Strode i w (w.strideReceiving i c) t t' told := by
  have hgoing : c.stage.isOver = false := by
    rw [hs]
    rfl
  unfold strideReceiving
  split
  · exact Or.inl rfl
  · rename_i htake
    exact Or.inr ((Midway.refl i w).endConsumer hc hgoing rfl rfl
      (.leaves c hs (by rw [htake])))
  · rename_i e bus parties htake
    obtain ⟨more, heq⟩ := withBus_eq w bus parties
    have htaken : Midway i w ((w.withBus bus parties).note i (.taken e)) [.taken e] := by
      rw [heq]
      exact ⟨rfl, rfl, rfl, List.subset_append_left _ _, rfl⟩
    refine Or.inr ⟨_, _, _, (htaken.put hc hgoing (.takes c hs htake _ _) ?_ ?_).setTimer _ _⟩
    · rw [heq]
      rfl
    · rw [heq]
      rfl

theorem strode_handled {e : Event} {due : Nat} {outcome : HandlingOutcome}
    (hc : w.tasks[i]? = some (.consumer c)) (hs : c.stage = .handling e due outcome) :
    ∃ t t' told, Strode i w (w.strideHandled i c e outcome) t t' told := by
  have hgoing : c.stage.isOver = false := by
    rw [hs]
    rfl
  have hhandled := (Midway.refl i w).note (.handled c.sink.name e outcome)
  unfold strideHandled
  simp only
  split
  · exact hhandled.endConsumer hc hgoing rfl rfl (.perishes c hs)
  · exact ⟨_, _, _, (hhandled.put hc hgoing (.handles c hs) rfl rfl).wake _⟩

end Consumers

/-- **A stride leaves everything as it is,** or comes to one of the things that can come out. -/
theorem stride_cases (w : World) (i : Nat) :
    w.stride i = w ∨ ∃ t t' told, Strode i w (w.stride i) t t' told := by
  unfold stride
  rcases ht : w.tasks[i]? with _ | t
  · exact Or.inl rfl
  · cases t with
    | worker k => exact strode_worker ht
    | consumer c =>
      simp only
      unfold strideConsumer
      cases hs : c.stage with simp only
      | receiving => exact strode_receiving ht hs
      | handling e due outcome =>
        split
        · exact Or.inr (strode_handled ht hs)
        · exact Or.inl rfl
      | ended => exact Or.inl trivial
      | died => exact Or.inl trivial
    | publisher event stage => exact Or.inl rfl

end World
end StatusRelay
