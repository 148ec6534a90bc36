/-
# The cycles of a worker

What happens to a worker happens in a fixed order, cycle after cycle, and its record can be read
along these stations:

```
holding [] ─asked─► waiting ─fetchBegan─► fetching ─fetchEnded─► fetched ─filtered─► holding fresh
holding (e :: es) ─delivered─► sending e es ─published─► holding es
```

| occurrence | leads to the end from |
| --- | --- |
| `ended` | `waiting`, and `holding` whatever is left to publish |
| `fetchAbandoned`, then `ended` | `fetching` |
| `ended` | `fetched`, if the fetch took the worker down |

A poll leads the record of a worker along the stations to the one that its stage names, `Arrives`.
Only a poll after a stop leads to an end at which a fetch was abandoned or events were given up.
-/

import StatusRelay.Proofs.World.Calls
import StatusRelay.Proofs.World.Control
import StatusRelay.Proofs.World.Feeding
import StatusRelay.Proofs.World.Incidents

namespace StatusRelay

/-- Where a worker is in its cycle, as its record tells. -/
inductive Station where
  /-- It does not fetch and has events yet to publish, if any. -/
  | holding (pending : List Event)
  /-- It has asked for a permit. -/
  | waiting
  | fetching
  /-- A fetch came to its end, and its events have not been filtered. -/
  | fetched (outcome : FetchOutcome)
  /-- A publish was completed, and the worker has not counted it. -/
  | sending (event : Event) (rest : List Event)
  /-- A fetch was abandoned. -/
  | leaving
  /-- It has come to its end, and has given up events, or abandoned a fetch. -/
  | gone (lost : List Event) (abandoned : Bool)

/-- **What can happen to a worker,** and where it is afterwards. Every event of a fetch is new or a
duplicate. -/
inductive Station.Step : Station → Occurrence → Station → Prop
  | ask : Step (.holding []) .asked .waiting
  | begin : Step .waiting .fetchBegan .fetching
  | finish (name : String) (elapsed : Nat) (outcome : FetchOutcome) :
    Step .fetching (.fetchEnded name elapsed outcome) (.fetched outcome)
  | sift {outcome : FetchOutcome} {fresh : List Event} {duplicates : Nat} (name : String)
    (hlives : outcome ≠ .deadly) (hall : fresh.length + duplicates = outcome.found.length) :
    Step (.fetched outcome) (.filtered name fresh duplicates) (.holding fresh)
  | deliver (event : Event) (rest : List Event) (count : Nat) :
    Step (.holding (event :: rest)) (.delivered event count) (.sending event rest)
  | publish (name : String) (event : Event) (rest : List Event) :
    Step (.sending event rest) (.published name event) (.holding rest)
  | abandon : Step .fetching .fetchAbandoned .leaving
  | leave : Step .leaving .ended (.gone [] true)
  | quit : Step .waiting .ended (.gone [] false)
  | drop (pending : List Event) : Step (.holding pending) .ended (.gone pending false)
  | die : Step (.fetched .deadly) .ended (.gone [] false)

/-- A record leads from one station to another. The latest entry is the first. -/
inductive Station.Path (s : Station) : List Occurrence.Entry → Station → Prop
  | nil : Path s [] s
  | cons {log : List Occurrence.Entry} {s' s'' : Station} (e : Occurrence.Entry)
    (h : Path s log s') (hstep : Step s' e.what s'') : Path s (e :: log) s''

/-- The station of a worker at a stage. One that was cancelled has lost nothing by that. -/
def Stage.station : Stage → Station
  | .ready => .holding []
  | .queued => .waiting
  | .fetching .. => .fetching
  | .publishing pending => .holding pending
  | .sleeping _ => .holding []
  | .cancelled | .died => .gone [] false

theorem Station.Path.append {s s' s'' : Station} {log more : List Occurrence.Entry}
    (h : Path s log s') (h' : Path s' more s'') : Path s (more ++ log) s'' := by
  induction h' with
  | nil => exact h
  | cons e _ hstep ih => exact ih.cons e hstep

namespace World

open Station (Step Path)

variable {w w' a : World} {i : Nat} {s s' s'' : Station} {k : Worker}

/-! ### What a poll adds to the record -/

/-- Something has happened to one task, which leads from one station to another. -/
def Grows (i : Nat) (s s' : Station) (w w' : World) : Prop :=
  ∃ more, w'.log = more ++ w.log ∧ (∀ e ∈ more, e.task = i) ∧ Path s more s'

namespace Grows

theorem of_log (h : w'.log = w.log) : Grows i s s w w' :=
  ⟨[], by rw [h, List.nil_append], by simp, .nil⟩

theorem trans (h : Grows i s s' w a) (h' : Grows i s' s'' a w') : Grows i s s'' w w' := by
  obtain ⟨more, hlog, htask, hpath⟩ := h
  obtain ⟨more', hlog', htask', hpath'⟩ := h'
  refine ⟨more' ++ more, by rw [hlog', hlog, List.append_assoc], fun e he => ?_,
    hpath.append hpath'⟩
  exact (List.mem_append.1 he).elim (htask' e) (htask e)

theorem note (h : Grows i s s' w w') {what : Occurrence} (hstep : Step s' what s'') :
    Grows i s s'' w (w'.note i what) :=
  h.trans ⟨[⟨w'.now, i, what⟩], rfl, by simp, .cons _ .nil hstep⟩

/-- What else happens to a world does not matter. -/
theorem congr (h : Grows i s s' w a) (hlog : w'.log = a.log) : Grows i s s' w w' :=
  h.trans (of_log hlog)

/-- The record of the task leads on. -/
theorem path (h : Grows i s' s'' w w') (hpath : Path s (ofTask i w.log) s') :
    Path s (ofTask i w'.log) s'' := by
  obtain ⟨more, hlog, htask, hmore⟩ := h
  have hself : ofTask i w'.log = more ++ ofTask i w.log := by
    rw [hlog, ofTask, List.filter_append]
    congr 1
    exact List.filter_eq_self.2 fun e he => beq_iff_eq.2 (htask e he)
  rw [hself]
  exact hpath.append hmore

end Grows

/-- **A worker has been polled,** which leads it to the station that its stage names. -/
def Arrives (i : Nat) (s : Station) (w w' : World) : Prop :=
  ∃ stage, w'.stageAt i = some stage ∧ Grows i s stage.station w w'

namespace Arrives

theorem put {k : Worker} (h : Grows i s k.stage.station a w) (hi : i < w.tasks.length) :
    Arrives i s a (w.put i (.worker k)) :=
  ⟨k.stage, stageAt_put hi k, h.congr rfl⟩

theorem setTimer {due : Nat} (h : Arrives i s a w) : Arrives i s a (w.setTimer i due) := by
  obtain ⟨stage, hs, hg⟩ := h
  exact ⟨stage, (stageAt_setTimer w i due i).trans hs, hg.congr (log_setTimer w i due)⟩

theorem endWorker {stage : Stage} (h : Grows i s s' a w) (hi : i < w.tasks.length)
    (hstep : Step s' .ended stage.station) : Arrives i s a (w.endWorker i k stage) :=
  ⟨stage, stageAt_endWorker hi k stage, (h.congr rfl).note hstep⟩

theorem sleep (h : Grows i s (.holding []) a w) (hi : i < w.tasks.length) :
    Arrives i s a (w.sleep i k) :=
  (put (k := { k with stage := .sleeping (w.now + k.interval) }) h hi).setTimer

/-- **A worker publishes its events one after another.** -/
theorem publish {pending : List Event} (h : Grows i s (.holding pending) a w)
    (hi : i < w.tasks.length) : Arrives i s a (w.publish i k pending) := by
  induction pending generalizing w k with
  | nil => exact sleep h hi
  | cons e es ih =>
    unfold World.publish
    rcases drive_cases w i e with ⟨ticket, count, more, -, -, hd⟩ | ⟨bus, -, hd⟩
    · rw [hd]
      have hdelivered : Grows i s (.sending e es) a { w with
          bus := w.bus.drive.1
          ready := w.ready ++ more
          log := ⟨w.now, i, .delivered e count⟩ :: w.log } :=
        (h.note (.deliver e es count)).congr rfl
      have hsent := hdelivered.note (.publish k.name e es)
      cases es with
      | nil => exact sleep hsent hi
      | cons e' es => exact ih (hsent.congr rfl) hi
    · rw [hd]
      exact put (k := { k with stage := .publishing (e :: es) }) (h.congr rfl) hi

theorem sift {outcome : FetchOutcome} (h : Grows i s (.fetched outcome) a w)
    (hlives : outcome ≠ .deadly) (hi : i < w.tasks.length) :
    Arrives i s a (w.sift i k outcome.found) := by
  have hle := (Admission.filter_sublist w.admission outcome.found).length_le
  have hadmitted : Grows i s (.fetched outcome) a
      { w with admission := (w.admission.filter outcome.found).2 } := h.congr rfl
  have hsifted := hadmitted.note (.sift k.name hlives (Nat.add_sub_cancel' hle))
  unfold World.sift
  simp only
  split
  · rename_i hnil
    exact sleep (hnil ▸ hsifted) hi
  · exact publish (hsifted.congr rfl) hi

theorem finishFetch {since : Nat} {outcome : FetchOutcome} (h : Grows i s .fetching a w)
    (hi : i < w.tasks.length) : Arrives i s a (w.finishFetch i k since outcome) := by
  have hi' : i < w.releasePermit.tasks.length := (tasks_releasePermit w).symm ▸ hi
  have hended := (h.congr (log_releasePermit w)).note
    (.finish k.name (w.now - since) outcome)
  unfold World.finishFetch
  cases outcome with simp only
  | events es => exact sift hended (by simp) hi'
  | crashed crash => exact sift hended (by simp) hi'
  | deadly => exact endWorker hended hi' .die

theorem beginFetch (h : Grows i s .waiting a w) (hi : i < w.tasks.length) :
    Arrives i s a (w.beginFetch i k) := by
  have hbegan := h.note .begin
  unfold World.beginFetch
  simp only
  split
  · exact finishFetch hbegan hi
  · split
    · exact finishFetch (hbegan.congr rfl) hi
    · exact setTimer (put (hbegan.congr rfl) hi)

theorem askPermit (h : Grows i s (.holding []) a w) (hi : i < w.tasks.length) :
    Arrives i s a (w.askPermit i k) := by
  have hasked := h.note .ask
  unfold World.askPermit
  simp only
  split
  · exact endWorker hasked hi .quit
  · split
    · exact beginFetch (hasked.congr rfl) hi
    · exact put (k := { k with stage := .queued }) (hasked.congr rfl) hi

/-- **A worker that is polled before a stop** comes to the station that its stage names. -/
theorem pollWorker (hk : w.tasks[i]? = some (.worker k)) (hstop : w.signal.isStop = false) :
    Arrives i k.stage.station w (w.pollWorker i k) := by
  have hi : i < w.tasks.length := (List.getElem?_eq_some_iff.1 hk).1
  have hsame : Arrives i k.stage.station w w := ⟨k.stage, stageAt_of_worker hk, .of_log rfl⟩
  have h : Grows i k.stage.station k.stage.station w w := .of_log rfl
  unfold World.pollWorker
  rw [hstop]
  simp only [Bool.false_eq_true, if_false]
  rcases hstage : k.stage with _ | _ | ⟨since, due, outcome⟩ | pending | due | _ | _ <;>
    rw [hstage] at hsame h
  case ready => exact askPermit h hi
  case queued =>
    simp only
    split
    · exact endWorker h hi .quit
    · split
      · exact beginFetch (h.congr rfl) hi
      · exact hsame
  case fetching =>
    simp only
    split
    · exact finishFetch h hi
    · exact hsame
  case publishing => exact publish h hi
  case sleeping =>
    simp only
    split
    · exact askPermit h hi
    · exact hsame
  all_goals exact hsame

end Arrives

/-- **A worker that is polled after a stop** comes to its end. It gives up what it holds, and the
fetch if one goes on. -/
theorem Grows.stopWorker (hk : w.tasks[i]? = some (.worker k)) (hover : k.stage.isOver = false) :
    (w.stopWorker i k).stageAt i = some .cancelled ∧
      Grows i k.stage.station (.gone k.stage.held k.stage.isFetching) w (w.stopWorker i k) := by
  have hi : i < w.tasks.length := (List.getElem?_eq_some_iff.1 hk).1
  have hend : ∀ {w' : World} {s' : Station}, w'.tasks.length = w.tasks.length →
      Grows i k.stage.station s' w w' →
      Step s' .ended (.gone k.stage.held k.stage.isFetching) →
      (w'.endWorker i k .cancelled).stageAt i = some .cancelled ∧
        Grows i k.stage.station (.gone k.stage.held k.stage.isFetching) w
          (w'.endWorker i k .cancelled) := by
    intro w' s' hlength hgrows hstep
    exact ⟨stageAt_endWorker (hlength ▸ hi) k _, (hgrows.congr rfl).note hstep⟩
  unfold World.stopWorker
  rcases hstage : k.stage with _ | _ | ⟨since, due, outcome⟩ | pending | due | _ | _ <;>
    rw [hstage] at hend hover
  case queued =>
    obtain ⟨more, heq⟩ := withPermits_eq w (w.permits.leave i).1 (w.permits.leave i).2
    simp only
    rw [heq]
    exact hend rfl (.of_log rfl) .quit
  case fetching =>
    refine hend ?_ ((Grows.of_log (log_releasePermit w)).note .abandon) .leave
    exact congrArg List.length (tasks_releasePermit w)
  case publishing =>
    obtain ⟨more, heq⟩ := withBus_eq w (w.bus.cancel i).2.1 (w.bus.cancel i).2.2
    simp only [cancelPublish]
    rw [heq]
    exact hend rfl (.of_log rfl) (.drop pending)
  case ready => exact hend rfl (.of_log rfl) (.drop [])
  case sleeping => exact hend rfl (.of_log rfl) (.drop [])
  all_goals simp [Stage.isOver] at hover

/-! ### Runs -/

/-- What happens to one task is not told of another. -/
theorem ofTask_of_append {more : List Occurrence.Entry} (hlog : w'.log = more ++ w.log)
    (htask : ∀ e ∈ more, e.task = i) {j : Nat} (hj : j ≠ i) :
    ofTask j w'.log = ofTask j w.log := by
  have hnil : more.filter (·.task == j) = [] := List.filter_eq_nil_iff.2 fun e he heq =>
    hj ((beq_iff_eq.1 heq).symm.trans (htask e he))
  rw [hlog, ofTask, List.filter_append, hnil, List.nil_append]
  rfl

/-- **One poll:** a worker comes to the station that its stage names, or it was to stop, and comes
to its end with all that it gives up. -/
theorem poll_worker (hk : w.tasks[i]? = some (.worker k)) (hover : k.stage.isOver = false) :
    Arrives i k.stage.station w (w.poll i) ∨
      w.signal.isStop = true ∧ (w.poll i).stageAt i = some .cancelled ∧
        Grows i k.stage.station (.gone k.stage.held k.stage.isFetching) w (w.poll i) := by
  have hpoll : w.poll i = w.pollWorker i k := by
    simp [poll, hk, Task.isOver, hover]
  rw [hpoll]
  rcases hstop : w.signal.isStop with _ | _
  · exact Or.inl (Arrives.pollWorker hk hstop)
  · have heq : w.pollWorker i k = w.stopWorker i k := by
      unfold World.pollWorker
      rw [hstop]
      rfl
    rw [heq]
    exact Or.inr ⟨rfl, Grows.stopWorker hk hover⟩

theorem ofTask_poll_ne (w : World) {j : Nat} (hj : j ≠ i) :
    ofTask j (w.poll i).log = ofTask j w.log := by
  rcases ht : w.tasks[i]? with _ | t
  · simp [poll, ht]
  by_cases hover : t.isOver = true
  · simp [poll, ht, hover]
  have hlog : ∃ more, (w.poll i).log = more ++ w.log ∧ ∀ e ∈ more, e.task = i := by
    cases t with
    | worker k =>
      have hlives : k.stage.isOver = false := by simpa [Task.isOver] using hover
      rcases poll_worker ht hlives with ⟨stage, -, more, hlog, htask, -⟩ |
        ⟨-, -, more, hlog, htask, -⟩
      · exact ⟨more, hlog, htask⟩
      · exact ⟨more, hlog, htask⟩
    | consumer c =>
      obtain ⟨more, hlog, hmore⟩ := (Idle.pollConsumer (i := i) w c).log
      refine ⟨more, ?_, fun e he => (hmore e he).1⟩
      simpa [poll, ht, hover] using hlog
    | publisher event stage =>
      obtain ⟨more, hlog, hmore⟩ := (Quiet.pollPublisher (i := i) w event stage).log
      refine ⟨more, ?_, fun e he => (hmore e he).1⟩
      simpa [poll, ht, hover] using hlog
  obtain ⟨more, hlog, htask⟩ := hlog
  exact ofTask_of_append hlog htask hj

/-- Whether moves polled a worker after a stop, while it held some events or fetched. -/
def StoppedWith (start : World) (moves : List Move) (i : Nat) (lost : List Event)
    (abandoned : Bool) : Prop :=
  ∃ earlier later stage, moves = earlier ++ .poll i :: later ∧
    (start.run earlier).signal.isStop = true ∧ (start.run earlier).stageAt i = some stage ∧
    stage.held = lost ∧ stage.isFetching = abandoned

theorem StoppedWith.concat {start : World} {moves : List Move} {lost : List Event}
    {abandoned : Bool} (h : StoppedWith start moves i lost abandoned) (m : Move) :
    StoppedWith start (moves ++ [m]) i lost abandoned := by
  obtain ⟨earlier, later, stage, hmoves, h⟩ := h
  refine ⟨earlier, later ++ [m], stage, ?_, h⟩
  rw [hmoves, List.append_assoc, List.cons_append]

/-- A record leads to the station that a stage names, or the worker was stopped, and it leads to an
end at which things were given up. -/
def Reads (start : World) (moves : List Move) (i : Nat) (log : List Occurrence.Entry)
    (stage : Stage) : Prop :=
  Path (.holding []) log stage.station ∨
    stage = .cancelled ∧ ∃ lost abandoned, Path (.holding []) log (.gone lost abandoned) ∧
      StoppedWith start moves i lost abandoned

theorem Reads.concat {start : World} {moves : List Move} {log : List Occurrence.Entry}
    {stage : Stage} (h : Reads start moves i log stage) (m : Move) :
    Reads start (moves ++ [m]) i log stage := by
  rcases h with h | ⟨hc, lost, abandoned, hpath, hstopped⟩
  · exact Or.inl h
  · exact Or.inr ⟨hc, lost, abandoned, hpath, hstopped.concat m⟩

/-- A poll of a worker leads its record on. -/
theorem Reads.poll {start : World} {moves : List Move} (w : World)
    (h : ∀ stage, w.stageAt i = some stage → Reads start moves i (ofTask i w.log) stage)
    (hstopped : w.signal.isStop = true → ∀ stage, w.stageAt i = some stage →
      StoppedWith start (moves ++ [.poll i]) i stage.held stage.isFetching)
    {stage : Stage} (hs : (w.poll i).stageAt i = some stage) :
    Reads start (moves ++ [.poll i]) i (ofTask i (w.poll i).log) stage := by
  rcases ht : w.tasks[i]? with _ | t
  · have hsame : w.poll i = w := by simp [World.poll, ht]
    rw [hsame] at hs ⊢
    exact (h stage hs).concat _
  by_cases hover : t.isOver = true
  · have hsame : w.poll i = w := by simp [World.poll, ht, hover]
    rw [hsame] at hs ⊢
    exact (h stage hs).concat _
  have hnone : t.worker? = none → w.stageAt i = none := fun hworker =>
    stageAt_of_other fun t' ht' => by rwa [← Option.some.inj (ht.symm.trans ht')]
  cases t with
  | worker k =>
    have hlives : k.stage.isOver = false := by simpa [Task.isOver] using hover
    have hk := stageAt_of_worker ht
    have hpath : Path (.holding []) (ofTask i w.log) k.stage.station := by
      rcases h k.stage hk with hpath | ⟨hc, -⟩
      · exact hpath
      · simp [hc, Stage.isOver] at hlives
    rcases poll_worker ht hlives with ⟨stage', hs', hg⟩ | ⟨hstop, hc, hg⟩
    · obtain rfl := Option.some.inj (hs'.symm.trans hs)
      exact Or.inl (hg.path hpath)
    · obtain rfl := Option.some.inj (hc.symm.trans hs)
      exact Or.inr ⟨rfl, _, _, hg.path hpath, hstopped hstop k.stage hk⟩
  | consumer c =>
    have hpoll : w.poll i = w.pollConsumer i c := by simp [World.poll, ht, hover]
    rw [hpoll, (Idle.pollConsumer w c).stage (hnone rfl)] at hs
    simp at hs
  | publisher event pstage =>
    have hpoll : w.poll i = w.pollPublisher i event pstage := by simp [World.poll, ht, hover]
    rw [hpoll, stageAt_pollPublisher (hnone rfl)] at hs
    simp at hs

/-- **The record of a worker is led along the stations** by every run, to the one that its stage
names, or to an end with what it gave up when it was polled after a stop. -/
theorem reads_run (limit : Nat) (capacity : Option Nat) (providers : List Provider)
    (moves : List Move) (i : Nat) (stage : Stage)
    (hs : ((World.new limit capacity providers).run moves).stageAt i = some stage) :
    Reads (.new limit capacity providers) moves i
      (ofTask i ((World.new limit capacity providers).run moves).log) stage := by
  induction moves using List.reverseRecOn generalizing i stage with
  | nil => simp [run, stageAt, World.new] at hs
  | append_singleton moves m ih =>
    rw [run_concat] at hs ⊢
    generalize hw : (World.new limit capacity providers).run moves = w at hs ih ⊢
    by_cases hm : m = .poll i
    · subst hm
      refine Reads.poll { w with ready := w.ready.erase i } (ih i) (fun hstop stage' hs' => ?_) hs
      exact ⟨moves, [], stage', rfl, hw ▸ hstop, hw ▸ hs', rfl, rfl⟩
    by_cases hp : ∃ j, m = .poll j
    · obtain ⟨j, rfl⟩ := hp
      have hj : i ≠ j := fun h => hm (congrArg Move.poll h.symm)
      have hsame := stageAt_congr ((Apart.poll { w with ready := w.ready.erase j } j).others i hj)
      have hlog := ofTask_poll_ne { w with ready := w.ready.erase j } hj
      rw [show w.act (.poll j) = { w with ready := w.ready.erase j }.poll j from rfl] at hs ⊢
      rw [hlog]
      exact (ih i stage (hsame ▸ hs)).concat _
    · have ho := act_outside w (not_exists.1 hp)
      rw [ho.log]
      by_cases hi : i < w.tasks.length
      · have hsame : (w.act m).stageAt i = w.stageAt i :=
          stageAt_congr (by rw [ho.tasks, List.getElem?_append_left hi])
        exact (ih i stage (hsame ▸ hs)).concat _
      · -- Who is new has no record, and is ready to begin.
        have hknown := ((Recorded.initial limit capacity providers).run moves).known
        rw [hw] at hknown
        have hnil : ofTask i w.log = [] := List.filter_eq_nil_iff.2 fun e he heq => hi <| by
          rw [← beq_iff_eq.1 heq]
          exact hknown e he
        obtain rfl := ho.stageAt_new (Nat.le_of_not_lt hi) hs
        rw [hnil]
        exact Or.inl .nil

end World
end StatusRelay
