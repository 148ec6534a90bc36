/-
# What the counts count

A worker and a consumer count on their own, and the record tells on its own what happened to them.
The two agree:

| occurrence | of a worker | of a consumer |
| --- | --- | --- |
| `fetchBegan` | a cycle | |
| `fetchEnded`, of a fetch that crashed | a fault | |
| `filtered` | events fetched, and those of them that are duplicates | |
| `published` | an event published | |
| `taken` | | an event received |
| `handled` | | an event processed, or a failure |

A worker is said to have published an event right after the publish was completed. So it counts the
publishes of its own that were completed too.

What a consumer has received it has handled, but for one event at most: the one that its sink deals
with, or dealt with when the consumer was stopped. Such a consumer is `Even`.
-/

import StatusRelay.Proofs.Admission
import StatusRelay.Proofs.World.Polls
import StatusRelay.Proofs.World.Record
import StatusRelay.Proofs.World.Roster
import Mathlib.Algebra.GroupWithZero.Nat

namespace StatusRelay

namespace WorkerTally

/-- The counts of a worker after something has happened to it. -/
def add (t : WorkerTally) : Occurrence → WorkerTally
  | .fetchBegan => { t with cycles := t.cycles + 1 }
  | .fetchEnded _ _ outcome => if outcome.isFault then { t with faults := t.faults + 1 } else t
  | .filtered _ fresh duplicates => { t with
      fetched := t.fetched + (fresh.length + duplicates)
      duplicates := t.duplicates + duplicates }
  | .published .. => { t with published := t.published + 1 }
  | _ => t

/-- The counts that a record tells of. -/
def told (log : List Occurrence.Entry) : WorkerTally := log.foldr (fun e t => t.add e.what) {}

end WorkerTally

namespace ConsumerTally

/-- The counts of a consumer after something has happened to it. -/
def add (t : ConsumerTally) : Occurrence → ConsumerTally
  | .taken _ => { t with received := t.received + 1 }
  | .handled _ _ outcome => if outcome.isSuccess then { t with processed := t.processed + 1 }
      else { t with failures := t.failures + 1 }
  | _ => t

/-- The counts that a record tells of. -/
def told (log : List Occurrence.Entry) : ConsumerTally := log.foldr (fun e t => t.add e.what) {}

end ConsumerTally

namespace Consumer

/-- **Every event that a consumer has received is accounted for:** it was handled, in whatever way,
but for one that the sink deals with, or dealt with when the consumer was stopped. -/
def Even (c : Consumer) : Prop :=
  match c.stage with
  | .handling .. => c.tally.received = c.tally.processed + c.tally.failures + 1
  | .ended => c.tally.received = c.tally.processed + c.tally.failures ∨
      c.tally.received = c.tally.processed + c.tally.failures + 1
  | _ => c.tally.received = c.tally.processed + c.tally.failures

theorem Even.ended {c : Consumer} (h : c.Even) : Even { c with stage := .ended } := by
  unfold Even at *
  split at h
  · exact Or.inr h
  · exact h
  · exact Or.inl h

end Consumer

namespace Occurrence

/-- Whether a fetch crashed. -/
def isFault : Occurrence → Bool
  | fetchEnded _ _ outcome => outcome.isFault
  | _ => false

/-- The event that a consumer took. -/
def received : Occurrence → List Event
  | taken e => [e]
  | _ => []

end Occurrence

/-- The faults of a worker are the fetches that crashed. -/
theorem WorkerTally.faults_told (log : List Occurrence.Entry) :
    (told log).faults = log.countP (·.what.isFault) := by
  induction log with
  | nil => rfl
  | cons e log ih =>
    change ((told log).add e.what).faults = _
    rw [List.countP_cons, ← ih]
    cases e.what <;> simp only [add, Occurrence.isFault] <;> try rfl
    split <;> simp_all

/-- What a consumer has received are the events that it took. -/
theorem ConsumerTally.received_told (log : List Occurrence.Entry) :
    (told log).received = (World.eventsIn Occurrence.received log).length := by
  induction log with
  | nil => rfl
  | cons e log ih =>
    change ((told log).add e.what).received = _
    rw [World.eventsIn_cons, List.length_append, ← ih]
    cases e.what <;> simp only [add, Occurrence.received] <;> try rfl
    split <;> rfl

/-- How many events a task says that it has published. -/
def Task.published : Task → Nat
  | worker k => k.tally.published
  | _ => 0

namespace World

/-- **The counts of a task are those that a record tells of.** -/
def Counted (log : List Occurrence.Entry) : Task → Prop
  | .worker k => k.tally = .told log ∧ (eventsIn Occurrence.sent log).length = k.tally.published
  | .consumer c => c.tally = .told log ∧ eventsIn Occurrence.sent log = [] ∧ c.Even
  | .publisher .. => True

/-- **The counts of all tasks are those that the record tells of,** but for one that is being
polled. -/
structure Recorded (who : Option Nat) (w : World) : Prop where
  known : ∀ e ∈ w.log, e.task < w.tasks.length
  counted : ∀ j t, who ≠ some j → w.tasks[j]? = some t → Counted (ofTask j w.log) t

variable {w w' : World} {i : Nat} {who : Option Nat}

theorem ofTask_note (w : World) (i : Nat) (what : Occurrence) :
    ofTask i (w.note i what).log = ⟨w.now, i, what⟩ :: ofTask i w.log :=
  List.filter_cons_of_pos (beq_self_eq_true i)

theorem ofTask_note_ne (w : World) {i j : Nat} (hj : j ≠ i) (what : Occurrence) :
    ofTask j (w.note i what).log = ofTask j w.log :=
  List.filter_cons_of_neg (by simpa using Ne.symm hj)

namespace Counted

variable {k : Worker}

/-- Something that a worker counts, if at all, has happened to it; it is not a publish. -/
theorem note (h : Counted (ofTask i w.log) (.worker k)) (k' : Worker) (what : Occurrence)
    (htally : k'.tally = k.tally.add what) (hsent : what.sent = [])
    (hpublished : k'.tally.published = k.tally.published) :
    Counted (ofTask i (w.note i what).log) (.worker k') := by
  rw [ofTask_note]
  refine ⟨?_, ?_⟩
  · rw [htally, h.1]
    rfl
  · rw [eventsIn_cons, hsent, List.append_nil, hpublished]
    exact h.2

/-- A publish of a worker was completed, and counted by it. -/
theorem published (h : Counted (ofTask i w.log) (.worker k)) (e : Event) (count : Nat) :
    Counted (ofTask i ((w.note i (.delivered e count)).note i (.published k.name e)).log)
      (.worker { k with tally.published := k.tally.published + 1 }) := by
  rw [ofTask_note, ofTask_note]
  refine ⟨?_, ?_⟩
  · change WorkerTally.add k.tally (.published k.name e) = _
    rw [h.1]
    rfl
  · rw [eventsIn_cons, eventsIn_cons, List.append_assoc, List.length_append, h.2]
    rfl

end Counted

namespace Recorded

theorem congr (h : Recorded who w) (htasks : w'.tasks = w.tasks) (hlog : w'.log = w.log) :
    Recorded who w' := by
  refine ⟨?_, ?_⟩
  · rw [hlog, htasks]
    exact h.known
  · rw [hlog, htasks]
    exact h.counted

/-- A task begins to be polled. -/
theorem enter (h : Recorded none w) (i : Nat) : Recorded (some i) w :=
  ⟨h.known, fun j t _ ht => h.counted j t (by simp) ht⟩

theorem note (h : Recorded (some i) w) (hi : i < w.tasks.length) (what : Occurrence) :
    Recorded (some i) (w.note i what) := by
  refine ⟨fun e he => ?_, fun j t hj ht => ?_⟩
  · rcases List.mem_cons.1 he with rfl | he
    · exact hi
    · exact h.known e he
  · have hji : j ≠ i := fun hji => hj (congrArg some hji.symm)
    rw [ofTask_note_ne w hji]
    exact h.counted j t hj ht

/-- A task has been polled. -/
theorem put {t : Task} (h : Recorded (some i) w) (ht : Counted (ofTask i w.log) t) :
    Recorded none (w.put i t) := by
  refine ⟨fun e he => ?_, fun j u _ hu => ?_⟩
  · have := h.known e he
    simpa [World.put] using this
  · replace hu : (w.tasks.set i t)[j]? = some u := hu
    by_cases hj : j = i
    · subst hj
      have hlt := (List.getElem?_eq_some_iff.1 hu).1
      rw [List.length_set] at hlt
      rw [List.getElem?_set_self hlt] at hu
      exact Option.some.inj hu ▸ ht
    · rw [List.getElem?_set_ne (Ne.symm hj)] at hu
      exact h.counted j u (fun heq => hj (Option.some.inj heq).symm) hu

theorem withBus (h : Recorded who w) (bus : Bus) (parties : List Wake) :
    Recorded who (w.withBus bus parties) := by
  obtain ⟨more, hw⟩ := withBus_eq w bus parties
  rw [hw]
  exact h.congr rfl rfl

theorem withPermits (h : Recorded who w) (permits : Permits) (given : Option Nat) :
    Recorded who (w.withPermits permits given) := by
  obtain ⟨more, hw⟩ := withPermits_eq w permits given
  rw [hw]
  exact h.congr rfl rfl

theorem setTimer (task due : Nat) (h : Recorded who w) : Recorded who (w.setTimer task due) := by
  obtain ⟨more, timers, hw⟩ := setTimer_eq w task due
  rw [hw]
  exact h.congr rfl rfl

/-! ### Workers -/

section Workers

variable {k : Worker}

theorem endWorker (stage : Stage) (h : Recorded (some i) w) (hi : i < w.tasks.length)
    (hk : Counted (ofTask i w.log) (.worker k)) :
    Recorded none (w.endWorker i k stage) :=
  (h.note hi .ended).put (t := .worker { k with stage := stage }) (hk.note _ _ rfl rfl rfl)

theorem sleep (h : Recorded (some i) w) (hk : Counted (ofTask i w.log) (.worker k)) :
    Recorded none (w.sleep i k) :=
  setTimer _ _ (h.put (t := .worker { k with stage := .sleeping (w.now + k.interval) }) hk)

theorem publish (pending : List Event) (h : Recorded (some i) w) (hi : i < w.tasks.length)
    (hk : Counted (ofTask i w.log) (.worker k)) :
    Recorded none (w.publish i k pending) := by
  induction pending generalizing w k with
  | nil => exact h.sleep hk
  | cons e es ih =>
    unfold World.publish
    rcases drive_cases w i e with ⟨ticket, count, more, -, -, hd⟩ | ⟨bus, -, hd⟩
    · have hdriven : Recorded (some i)
          { w with bus := w.bus.drive.1, ready := w.ready ++ more } := h.congr rfl rfl
      have hw := (hdriven.note hi (.delivered e count)).note hi (.published k.name e)
      have hcounted := hk.published (w := { w with bus := w.bus.drive.1, ready := w.ready ++ more })
        e count
      rw [hd]
      cases es with
      | nil => exact hw.sleep hcounted
      | cons e' es => exact ih (hw.congr rfl rfl) hi hcounted
    · rw [hd]
      have hwaits : Recorded (some i) { w with bus := bus } := h.congr rfl rfl
      exact hwaits.put (t := .worker { k with stage := .publishing (e :: es) }) hk

theorem sift (found : List Event) (h : Recorded (some i) w) (hi : i < w.tasks.length)
    (hk : Counted (ofTask i w.log) (.worker k)) :
    Recorded none (w.sift i k found) := by
  have hle := (Admission.filter_sublist w.admission found).length_le
  have hadmitted : Recorded (some i) { w with admission := (w.admission.filter found).2 } :=
    h.congr rfl rfl
  have hw := hadmitted.note hi (.filtered k.name (w.admission.filter found).1
    (found.length - (w.admission.filter found).1.length))
  have hcounted := hk.note (w := { w with admission := (w.admission.filter found).2 })
    { k with
      tally.fetched := k.tally.fetched + found.length
      tally.duplicates := k.tally.duplicates +
        (found.length - (w.admission.filter found).1.length) }
    (.filtered k.name (w.admission.filter found).1
      (found.length - (w.admission.filter found).1.length))
    (by simp only [WorkerTally.add, Nat.add_sub_cancel' hle]) rfl rfl
  unfold World.sift
  simp only
  split
  · exact hw.sleep hcounted
  · exact publish _ (hw.congr rfl rfl) hi hcounted

theorem finishFetch (since : Nat) (outcome : FetchOutcome) (h : Recorded (some i) w)
    (hi : i < w.tasks.length) (hk : Counted (ofTask i w.log) (.worker k)) :
    Recorded none (w.finishFetch i k since outcome) := by
  have hp : Recorded (some i) w.releasePermit := h.withPermits _ _
  have hi' : i < w.releasePermit.tasks.length := by
    rw [tasks_releasePermit]
    exact hi
  have hk' : Counted (ofTask i w.releasePermit.log) (.worker k) := by
    rw [log_releasePermit]
    exact hk
  have hw := hp.note hi' (.fetchEnded k.name (w.now - since) outcome)
  unfold World.finishFetch
  cases outcome with simp only
  | events es => exact sift es hw hi' (hk'.note _ _ rfl rfl rfl)
  | crashed crash => exact sift [] hw hi' (hk'.note _ _ rfl rfl rfl)
  | deadly => exact endWorker .died hw hi' (hk'.note _ _ rfl rfl rfl)

theorem beginFetch (h : Recorded (some i) w) (hi : i < w.tasks.length)
    (hk : Counted (ofTask i w.log) (.worker k)) : Recorded none (w.beginFetch i k) := by
  have hw := h.note hi .fetchBegan
  have hcounted := hk.note { k with tally.cycles := k.tally.cycles + 1 } .fetchBegan rfl rfl rfl
  unfold World.beginFetch
  simp only
  split
  · exact finishFetch _ _ hw hi hcounted
  · split
    · exact finishFetch _ _ (hw.congr rfl rfl) hi hcounted
    · exact setTimer _ _ (put (hw.congr rfl rfl) hcounted)

theorem askPermit (h : Recorded (some i) w) (hi : i < w.tasks.length)
    (hk : Counted (ofTask i w.log) (.worker k)) : Recorded none (w.askPermit i k) := by
  have hw := h.note hi .asked
  have hcounted := hk.note k .asked rfl rfl rfl
  unfold World.askPermit
  simp only
  split
  · exact endWorker _ hw hi hcounted
  · split
    · exact beginFetch (hw.congr rfl rfl) hi hcounted
    · exact put (hw.congr rfl rfl) hcounted

theorem stopWorker (h : Recorded (some i) w) (hi : i < w.tasks.length)
    (hk : Counted (ofTask i w.log) (.worker k)) : Recorded none (w.stopWorker i k) := by
  have hsame : ∀ w' : World, w'.tasks = w.tasks → w'.log = w.log →
      Recorded none (w'.endWorker i k .cancelled) := by
    intro w' htasks hlog
    refine endWorker _ (h.congr htasks hlog) (htasks ▸ hi) ?_
    rw [hlog]
    exact hk
  unfold World.stopWorker
  cases k.stage with simp only
  | queued =>
    obtain ⟨more, heq⟩ := withPermits_eq w (w.permits.leave i).1 (w.permits.leave i).2
    exact hsame _ (by rw [heq]) (by rw [heq])
  | fetching since due outcome =>
    have hp : Recorded (some i) w.releasePermit := h.withPermits _ _
    have hi' : i < w.releasePermit.tasks.length := (tasks_releasePermit w).symm ▸ hi
    refine endWorker _ (hp.note hi' .fetchAbandoned) hi' (Counted.note ?_ _ _ rfl rfl rfl)
    rw [log_releasePermit]
    exact hk
  | publishing pending =>
    obtain ⟨more, heq⟩ := withBus_eq w (w.bus.cancel i).2.1 (w.bus.cancel i).2.2
    exact hsame (w.cancelPublish i) (by simp [cancelPublish, heq]) (by simp [cancelPublish, heq])
  | ready => exact hsame w rfl rfl
  | sleeping due => exact hsame w rfl rfl
  | cancelled => exact hsame w rfl rfl
  | died => exact hsame w rfl rfl

theorem pollWorker (h : Recorded (some i) w) (hi : i < w.tasks.length)
    (hk : Counted (ofTask i w.log) (.worker k)) (hnone : Recorded none w) :
    Recorded none (w.pollWorker i k) := by
  unfold World.pollWorker
  split
  · exact h.stopWorker hi hk
  · cases k.stage with simp only
    | ready => exact h.askPermit hi hk
    | queued =>
      split
      · exact endWorker _ h hi hk
      · split
        · exact beginFetch (h.congr rfl rfl) hi hk
        · exact hnone
    | fetching since due outcome =>
      split
      · exact finishFetch since outcome h hi hk
      · exact hnone
    | publishing pending => exact publish pending h hi hk
    | sleeping due =>
      split
      · exact h.askPermit hi hk
      · exact hnone
    | cancelled => exact hnone
    | died => exact hnone

end Workers
/-! ### Consumers and publishers -/

section Consumers

variable {c : Consumer}

theorem endConsumer (stage : ConsumerStage) (h : Recorded (some i) w) (hi : i < w.tasks.length)
    (hc : Counted (ofTask i w.log) (.consumer { c with stage := stage })) :
    Recorded none (w.endConsumer i c stage) := by
  obtain ⟨more, heq⟩ := endConsumer_eq w i c stage
  have hw := (h.note hi .ended).put (t := .consumer { c with stage := stage })
    (by rw [ofTask_note]; exact ⟨hc.1, by rw [eventsIn_cons, hc.2.1]; rfl, hc.2.2⟩)
  rw [heq]
  exact hw.congr rfl rfl

/-- A consumer has taken an event, and the sink deals with it. -/
theorem counted_taken (hc : Counted (ofTask i w.log) (.consumer c)) (hs : c.stage = .receiving)
    (e : Event) (due : Nat) (outcome : HandlingOutcome) :
    Counted (ofTask i (w.note i (.taken e)).log) (.consumer { c with
      stage := .handling e due outcome
      tally.received := c.tally.received + 1 }) := by
  obtain ⟨htally, hsent, heven⟩ := hc
  unfold Consumer.Even at heven
  rw [hs] at heven
  rw [ofTask_note]
  refine ⟨?_, by rw [eventsIn_cons, hsent]; rfl, congrArg (· + 1) heven⟩
  change c.tally.add (.taken e) = _
  rw [htally]
  rfl

/-- The sink is done with an event. -/
theorem counted_handled {e : Event} {due : Nat} {dealt : HandlingOutcome}
    (hc : Counted (ofTask i w.log) (.consumer { c with stage := .handling e due dealt }))
    (outcome : HandlingOutcome) : Counted (ofTask i (w.finishHandling i c e outcome).1.log)
      (.consumer (w.finishHandling i c e outcome).2) := by
  obtain ⟨htally, hsent, heven⟩ := hc
  replace htally : c.tally = .told (ofTask i w.log) := htally
  replace heven : c.tally.received = c.tally.processed + c.tally.failures + 1 := heven
  refine ⟨?_, ?_, ?_⟩
  · change c.tally.add (.handled c.sink.name e outcome) = .told (ofTask i (w.note i _).log)
    rw [ofTask_note, htally]
    rfl
  · change eventsIn _ (ofTask i (w.note i _).log) = []
    rw [ofTask_note, eventsIn_cons, hsent]
    rfl
  · unfold finishHandling
    by_cases hok : outcome.isSuccess = true
    · simp only [Consumer.Even, hok, if_true]
      omega
    · simp only [Consumer.Even, hok]
      exact heven

theorem receive (most : Nat) (h : Recorded (some i) w) (hi : i < w.tasks.length)
    (hc : Counted (ofTask i w.log) (.consumer c)) (hs : c.stage = .receiving) :
    Recorded none (w.receive i c most) := by
  induction most generalizing w c with
  | zero => exact h.put hc
  | succ most ih =>
    unfold World.receive
    split
    · exact h.put hc
    · exact endConsumer _ h hi ⟨hc.1, hc.2.1, hc.2.2.ended⟩
    · rename_i e bus parties _
      obtain ⟨more, heq⟩ := withBus_eq w bus parties
      have hi' : i < ((w.withBus bus parties).note i (.taken e)).tasks.length := by
        rw [heq]
        exact hi
      have hb : Recorded (some i) ((w.withBus bus parties).note i (.taken e)) :=
        (h.withBus bus parties).note (by rw [heq]; exact hi) _
      have hc' : Counted (ofTask i (w.withBus bus parties).log) (.consumer c) := by
        rw [heq]
        exact hc
      simp only
      split
      · have hdone := counted_handled (w := (w.withBus bus parties).note i (.taken e))
          (c := { c with tally.received := c.tally.received + 1 })
          (counted_taken hc' hs e 0 .done) (c.sink.handle c.tally.received e).outcome
        split
        · exact endConsumer .died (hb.note hi' _) hi' hdone
        · exact ih (hb.note hi' _) hi' hdone rfl
      · exact setTimer _ _ (put hb (counted_taken hc' hs _ _ _))

theorem pollConsumer (h : Recorded (some i) w) (hi : i < w.tasks.length)
    (hc : Counted (ofTask i w.log) (.consumer c)) (hnone : Recorded none w) :
    Recorded none (w.pollConsumer i c) := by
  unfold World.pollConsumer
  split
  · exact endConsumer _ h hi ⟨hc.1, hc.2.1, hc.2.2.ended⟩
  · rcases c with ⟨sink, queue, started, stage, tally⟩
    cases stage with simp only
    | receiving => exact receive _ h hi hc rfl
    | handling e due outcome =>
      split
      · have hdone := counted_handled (c := ⟨sink, queue, started, .handling e due outcome, tally⟩)
          hc outcome
        split
        · exact endConsumer .died (h.note hi _) hi hdone
        · exact receive _ (h.note hi _) hi hdone rfl
      · exact hnone
    | ended => exact hnone
    | died => exact hnone

theorem pollPublisher (h : Recorded (some i) w) (hi : i < w.tasks.length) (event : Event)
    (stage : PublisherStage) (hnone : Recorded none w) :
    Recorded none (w.pollPublisher i event stage) := by
  have hgo : ∀ bus, Recorded none (pollPublisher.go i event { w with bus := bus }) := by
    intro bus
    unfold pollPublisher.go
    rcases drive_cases { w with bus := bus } i event with
      ⟨ticket, count, more, -, -, hd⟩ | ⟨bus', -, hd⟩
    · rw [hd]
      exact ((h.note hi (.delivered event count)).put (t := .publisher event .over) trivial).congr
        rfl rfl
    · rw [hd]
      exact (h.put (t := .publisher event .waiting) trivial).congr rfl rfl
  cases stage with
  | new => exact hgo _
  | waiting => exact hgo w.bus
  | _ => exact hnone

end Consumers

/-! ### Runs -/

theorem poll (h : Recorded none w) (i : Nat) : Recorded none (w.poll i) := by
  unfold World.poll
  rcases ht : w.tasks[i]? with _ | t
  · exact h
  · have hi := (List.getElem?_eq_some_iff.1 ht).1
    have hcounted := h.counted i t (by simp) ht
    simp only
    split
    · exact h
    · cases t with
      | worker k => exact pollWorker (h.enter i) hi hcounted h
      | consumer c => exact pollConsumer (h.enter i) hi hcounted h
      | publisher event stage => exact pollPublisher (h.enter i) hi event stage h

/-- Who is new has counted nothing, and nothing is told of it. -/
theorem outside {m : Move} (h : Recorded none w) (ho : Outside m w w') : Recorded none w' := by
  refine ⟨fun e he => ?_, fun j t _ ht => ?_⟩
  · rw [ho.log] at he
    rw [ho.tasks, List.length_append]
    exact Nat.lt_add_right _ (h.known e he)
  · rw [ho.tasks] at ht
    rw [ho.log]
    by_cases hj : j < w.tasks.length
    · rw [List.getElem?_append_left hj] at ht
      exact h.counted j t (by simp) ht
    · have hnil : ofTask j w.log = [] := List.filter_eq_nil_iff.2 fun e he heq => hj <| by
        rw [← beq_iff_eq.1 heq]
        exact h.known e he
      rw [List.getElem?_append_right (Nat.le_of_not_lt hj)] at ht
      rw [hnil, ← fresh_of_mem_newcomers (List.mem_of_getElem? ht)]
      cases t with
      | worker k => exact ⟨rfl, rfl⟩
      | consumer c => exact ⟨rfl, rfl, rfl⟩
      | publisher event stage => trivial

theorem act (h : Recorded none w) (m : Move) : Recorded none (w.act m) := by
  by_cases hp : ∃ i, m = .poll i
  · obtain ⟨i, rfl⟩ := hp
    exact poll (w := { w with ready := w.ready.erase i }) (h.congr rfl rfl) i
  · exact h.outside (act_outside w (not_exists.1 hp))

theorem run (h : Recorded none w) (moves : List Move) : Recorded none (w.run moves) := by
  induction moves generalizing w with
  | nil => exact h
  | cons m moves ih => exact ih (h.act m)

theorem initial (limit : Nat) (capacity : Option Nat) (providers : List Provider) :
    Recorded none (World.new limit capacity providers) :=
  ⟨by simp [World.new], by simp [World.new]⟩

/-- **What all tasks have done adds up,** given how much each has. -/
theorem length_eventsIn (h : Recorded none w) {view : Occurrence → List Event} {f : Task → Nat}
    (hf : ∀ j t, w.tasks[j]? = some t → (eventsIn view (ofTask j w.log)).length = f t) :
    (eventsIn view w.log).length = (w.tasks.map f).sum := by
  rw [(eventsIn_perm view h.known).length_eq, List.length_flatMap]
  refine congrArg List.sum (List.ext_getElem (by simp) fun j hj hj' => ?_)
  rw [List.getElem_map, List.getElem_map, List.getElem_range]
  exact hf j _ (List.getElem?_eq_getElem (by simpa using hj'))

/-- **What workers have published is all that was published,** if nobody else publishes. -/
theorem length_sent (h : Recorded none w)
    (hours : ∀ (i : Nat) event stage, w.tasks[i]? ≠ some (.publisher event stage)) :
    (eventsIn Occurrence.sent w.log).length = (w.tasks.map Task.published).sum := by
  refine h.length_eventsIn fun j t ht => ?_
  have hcounted := h.counted j t (by simp) ht
  rcases t with k | c | ⟨event, stage⟩
  · exact hcounted.2
  · rw [hcounted.2.1]
    rfl
  · exact absurd ht (hours j event stage)

end Recorded
end World
end StatusRelay
