/-
# What the report of a monitor says

A monitor subscribes all consumers before it starts the workers. The run then goes on by itself, is
stopped at some moment, and comes to rest; the report is made of what is there by then. Its numbers
are counted in five places, and fit together:

| number | counted by | the same as |
| --- | --- | --- |
| published events | the bus | what the workers say that they published |
| deliveries | the bus | one for each event published before the stop and each consumer |
| unique events | the store | at least the published events |
| received events | a consumer | a first part of the published events, in their order |
| processed events and failures | a consumer | what it received, but for one that was cut off |

The tasks of a run may be on several threads. Then a stop can come right after a worker has looked
at the signal. That worker is late: it publishes one event yet, and consumers that have left in the
meantime do not get it. On one thread nobody is late, and every event goes to every consumer.
-/

import StatusRelay.Proofs.World.OneThread

namespace StatusRelay

open Occurrence (sent)

/-! ### Consumers first, then workers -/

/-- What is new in a list of tasks is found in the tasks. -/
theorem exists_map_of_fresh {α : Type} {f : α → Task} {new : α → α}
    (hf : ∀ t a, t.fresh = f a → ∃ a', t = f a' ∧ new a' = a) {ts : List Task} {as : List α}
    (h : ts.map Task.fresh = as.map f) : ∃ as' : List α, ts = as'.map f ∧ as'.map new = as := by
  induction as generalizing ts with
  | nil => exact ⟨[], by simpa using h, rfl⟩
  | cons a as ih =>
    rcases ts with _ | ⟨t, ts⟩
    · simp at h
    · obtain ⟨ht, hts⟩ := List.cons.inj h
      obtain ⟨a', rfl, rfl⟩ := hf t a ht
      obtain ⟨as', rfl, rfl⟩ := ih hts
      exact ⟨a' :: as', rfl, rfl⟩

/-- Tasks that were consumers and then workers when they were new are so still. -/
theorem exists_consumers_workers {ts : List Task} {cs : List Consumer} {ks : List Worker}
    (h : ts.map Task.fresh = cs.map .consumer ++ ks.map .worker) :
    ∃ (cs' : List Consumer) (ks' : List Worker), ts = cs'.map .consumer ++ ks'.map .worker ∧
      cs'.map Consumer.fresh = cs ∧ ks'.map Worker.fresh = ks := by
  obtain ⟨l, l', rfl, hl, hl'⟩ := List.map_eq_append_iff.1 h
  obtain ⟨cs', rfl, hcs⟩ := exists_map_of_fresh (fun t c ht => by
    cases t with
    | consumer c' => exact ⟨c', rfl, Task.consumer.inj ht⟩
    | worker k => simp [Task.fresh] at ht
    | publisher event stage => simp [Task.fresh] at ht) hl
  obtain ⟨ks', rfl, hks⟩ := exists_map_of_fresh (fun t k ht => by
    cases t with
    | worker k' => exact ⟨k', rfl, Task.worker.inj ht⟩
    | consumer c => simp [Task.fresh] at ht
    | publisher event stage => simp [Task.fresh] at ht) hl'
  exact ⟨cs', ks', rfl, hcs, hks⟩

namespace World

variable {w w' : World}

theorem consumers_of_tasks {cs : List Consumer} {ks : List Worker}
    (h : w.tasks = cs.map .consumer ++ ks.map .worker) : w.consumers = cs := by
  unfold consumers
  rw [h, List.filterMap_append, List.filterMap_map, List.filterMap_map]
  have hcs : cs.filterMap (Task.consumer? ∘ Task.consumer) = cs := List.filterMap_some
  have hks : ks.filterMap (Task.consumer? ∘ Task.worker) = [] :=
    List.filterMap_eq_nil_iff.2 fun _ _ => rfl
  rw [hcs, hks, List.append_nil]

theorem workers_of_tasks {cs : List Consumer} {ks : List Worker} {run : Nat}
    (h : w.tasks = cs.map .consumer ++ ks.map .worker) (hrun : ∀ k ∈ ks, k.run = run) :
    w.workers run = ks := by
  unfold workers
  rw [h, List.filterMap_append, List.filterMap_map, List.filterMap_map]
  have hcs : cs.filterMap (Task.worker? ∘ Task.consumer) = [] :=
    List.filterMap_eq_nil_iff.2 fun _ _ => rfl
  have hks : ks.filterMap (Task.worker? ∘ Task.worker) = ks := List.filterMap_some
  rw [hcs, hks, List.nil_append]
  exact List.filter_eq_self.2 fun k hk => beq_iff_eq.2 (hrun k hk)

end World

namespace Monitor

open World (Alive Balanced Motion Recorded Served Stopped Sustained)

/-- **The consumers of some sinks have been started,** in a world in which nothing else has
happened. -/
structure Gathered (first : World) (sinks : List Sink) (w : World) : Prop where
  reached : ∃ moves : List World.Move, (∀ m ∈ moves, m.isForeign = false) ∧ w = first.run moves
  served : Served sinks.length (Bus.Wide sinks.length) w
  going : w.signal.isStop = false
  log : w.log = []
  free : w.bus.gate = .free
  next : w.bus.nextId = sinks.length
  tasks : ∃ cs : List Consumer, w.tasks = cs.map .consumer ∧ cs.map Consumer.sink = sinks
  runs : w.runs = first.runs
  providers : w.providers = first.providers

theorem Gathered.initial (limit : Nat) (capacity : Option Nat) (providers : List Provider) :
    Gathered (.new limit capacity providers) [] (.new limit capacity providers) where
  reached := ⟨[], by simp, rfl⟩
  served := ⟨Bus.Wide.new capacity _, fun j c hc => by simp [World.new] at hc⟩
  going := rfl
  log := rfl
  free := rfl
  next := rfl
  tasks := ⟨[], rfl, rfl⟩
  runs := rfl
  providers := rfl

/-- One more consumer is started. -/
theorem Gathered.add {first w w' : World} {sinks : List Sink} (h : Gathered first sinks w)
    (sink : Sink) {queue : Nat} (hs : w.subscribe? = some (queue, w')) :
    Gathered first (sinks ++ [sink]) (w'.consume sink queue) := by
  obtain ⟨⟨id, bus⟩, hb, heq⟩ := Option.map_eq_some_iff.1 hs
  obtain ⟨rfl, rfl⟩ := Prod.mk.inj heq
  obtain ⟨more, hspawn, -⟩ := World.spawn_eq { w with bus := bus }
    (.consumer { sink := sink, queue := id, started := w.now })
  have hconsume : ({ w with bus := bus } : World).consume sink id = _ := hspawn
  obtain ⟨moves, hours, hmoves⟩ := h.reached
  obtain ⟨cs, hcs, hsinks⟩ := h.tasks
  have hlength : w.tasks.length = sinks.length := by
    rw [hcs, ← hsinks, List.length_map, List.length_map]
  have hid : id = sinks.length := (Bus.subscribe?_eq hb).1.trans h.next
  refine ⟨⟨moves ++ [.subscribe, .consume sink id], fun m hm => ?_, ?_⟩, ⟨?_, fun j c hc => ?_⟩,
    ?_, ?_, ?_, ?_, ⟨cs ++ [{ sink := sink, queue := id, started := w.now }], ?_, ?_⟩, ?_, ?_⟩
  · rcases List.mem_append.1 hm with hm | hm
    · exact hours m hm
    · simp only [List.mem_cons, List.not_mem_nil, or_false] at hm
      rcases hm with rfl | rfl <;> rfl
  · rw [World.run_append, ← hmoves]
    change _ = (w.act .subscribe).consume sink id
    have hact : w.act .subscribe = { w with bus := bus } := by
      simp only [World.act, World.subscribe?, hb, Option.map_some]
    rw [hact]
  · have hwide := h.served.bus
    rw [h.log] at hwide
    rw [hconsume, List.length_append, List.length_singleton]
    simp only [h.log]
    exact hwide.subscribe h.free h.next rfl hb
  · rw [hconsume] at hc
    rw [List.length_append, List.length_singleton]
    by_cases hj : j < w.tasks.length
    · rw [List.getElem?_append_left hj] at hc
      obtain ⟨hlt, hqueue⟩ := h.served.consumers j c hc
      exact ⟨by omega, hqueue⟩
    · have hlt := (List.getElem?_eq_some_iff.1 hc).1
      rw [List.length_append, List.length_singleton] at hlt
      replace hlt : j < w.tasks.length + 1 := hlt
      obtain rfl : j = w.tasks.length := by omega
      rw [List.getElem?_concat_length] at hc
      rw [← Task.consumer.inj (Option.some.inj hc)]
      exact ⟨hlength ▸ Nat.lt_succ_self _, hid.trans hlength.symm⟩
  · rw [hconsume]
    exact h.going
  · rw [hconsume]
    exact h.log
  · rw [hconsume, (Bus.subscribe?_eq hb).2]
    exact h.free
  · rw [hconsume, (Bus.subscribe?_eq hb).2, List.length_append, List.length_singleton, ← h.next]
  · rw [hconsume, List.map_append, ← hcs]
    rfl
  · rw [List.map_append, hsinks]
    rfl
  · rw [hconsume]
    exact h.runs
  · rw [hconsume]
    exact h.providers

theorem Gathered.consumeAll {first w w' : World} {sinks more : List Sink}
    (h : Gathered first sinks w) (hw : Monitor.consumeAll w more = some w') :
    Gathered first (sinks ++ more) w' := by
  induction more generalizing w sinks with
  | nil =>
    obtain rfl := Option.some.inj hw
    rw [List.append_nil]
    exact h
  | cons sink more ih =>
    unfold Monitor.consumeAll at hw
    obtain ⟨⟨queue, w₁⟩, hs, hrest⟩ := Option.bind_eq_some_iff.1 hw
    have := ih (h.add sink hs) hrest
    rwa [List.append_assoc] at this

/-- **What a monitor begins with:** a consumer for each sink, all of which will miss nothing, and a
worker for each provider. -/
structure Opened (m : Monitor) (w : World) : Prop where
  balanced : ∃ lost, Balanced lost w
  recorded : Recorded none w
  served : Served m.sinks.length (Bus.Wide m.sinks.length) w
  going : w.signal.isStop = false
  roster : ∃ (cs : List Consumer) (ks : List Worker),
    w.roster = cs.map .consumer ++ ks.map .worker ∧
    cs.map Consumer.sink = m.sinks ∧
    ks.map Worker.name = m.registry.entries.map (·.2.name) ∧ ∀ k ∈ ks, k.run = 0

/-- The workers are started when all consumers are there. -/
theorem Gathered.opened {m : Monitor} {w : World}
    (h : Gathered (.new m.settings.concurrencyLimit m.settings.queueCapacity
      (m.registry.entries.map (·.2))) m.sinks w) : Opened m w.start := by
  obtain ⟨moves, hours, hmoves⟩ := h.reached
  obtain ⟨cs, hcs, hsinks⟩ := h.tasks
  obtain ⟨lost, hb, -⟩ := (Balanced.initial _ _ _).run hours
  have hr := (Recorded.initial m.settings.concurrencyLimit m.settings.queueCapacity
    (m.registry.entries.map (·.2))).run moves
  rw [← hmoves] at hb hr
  obtain ⟨more, hstart, -⟩ := World.start_eq w
  refine ⟨⟨lost, hb.start⟩, hr.act .start, ?_, ?_, cs.map Consumer.fresh, w.recruits, ?_, ?_, ?_,
    fun k hk => ?_⟩
  · rw [hstart]
    refine ⟨h.served.bus, fun j c hc => ?_⟩
    by_cases hj : j < w.tasks.length
    · rw [List.getElem?_append_left hj] at hc
      exact h.served.consumers j c hc
    · rw [List.getElem?_append_right (Nat.le_of_not_lt hj)] at hc
      obtain ⟨k, -, hk⟩ := List.mem_map.1 (List.mem_of_getElem? hc)
      simp at hk
  · rw [hstart]
    exact h.going
  · refine (World.roster_act w .start).trans ?_
    unfold World.roster
    rw [hcs, List.map_map, List.map_map]
    rfl
  · rw [List.map_map]
    exact hsinks
  · rw [World.names_recruits, h.providers]
    exact List.map_map
  · obtain ⟨s, -, rfl⟩ := List.mem_map.1 hk
    exact h.runs

theorem Opened.of_open? {m : Monitor} {w : World} (h : m.open? = .ok w) : Opened m w := by
  unfold Monitor.open? at h
  split at h
  · simp at h
  · split at h
    · simp at h
    · rename_i scheduler hnew
      split at h
      · simp at h
      · rename_i w₁ hw₁
        obtain rfl := Except.ok.inj h
        unfold Scheduler.new at hnew
        split at hnew
        · simp at hnew
        · obtain rfl := Except.ok.inj hnew
          exact ((Gathered.initial _ _ _).consumeAll hw₁).opened

/-! ### The end of a run -/

/-- **How a run of a monitor ends** on several threads. The tasks make strides, in whatever order,
and time passes, up to the stop. From then on whoever is polled finds the stop. But whoever has
looked at the signal right before is late, and makes one stride yet, at whatever moment. In the end
all tasks are over. -/
structure Ends (w v : World) (late : List Nat) (w' : World) : Prop where
  before : ∃ motions : List Motion, (∀ m ∈ motions, m.isFree = true) ∧ v = w.goAll motions
  after : ∃ motions : List Motion, (∀ m ∈ motions, m.isInner = true) ∧
    motions.filterMap Motion.strider? = late ∧ w' = v.stop.goAll motions
  once : late.Nodup
  finished : ∀ t ∈ w'.tasks, t.isOver = true

/-- After a stop all tasks are over when none of them is to be polled. -/
theorem isOver_of_stopped {w : World} (h : Stopped w) (hb : ∃ lost, Balanced lost w)
    (hrest : w.ready = []) : ∀ t ∈ w.tasks, t.isOver = true := by
  obtain ⟨lost, hb⟩ := hb
  intro t ht
  obtain ⟨i, hi⟩ := List.mem_iff_getElem?.1 ht
  have hnot := h.not_stoppable_of_rest hrest hi
  cases t with
  | publisher event stage => exact absurd hi (hb.ours i event stage)
  | worker k => simpa [Task.isStoppable] using hnot
  | consumer c => simpa [Task.isStoppable] using hnot

/-- **On one thread nobody is late.** The tasks are polled in whatever order, and time passes; then
comes a stop, and more of the same until none is to be polled. -/
theorem ends_run {m : Monitor} {w : World} (h : Opened m w) {moves later : List World.Move}
    (hmoves : ∀ m ∈ moves, m.isInner = true) (hlater : ∀ m ∈ later, m.isInner = true)
    (hrest : ((w.run moves).stop.run later).ready = []) :
    Ends w (w.run moves).loose [] ((w.run moves).stop.run later).loose := by
  have hours {ms : List World.Move} (hms : ∀ m ∈ ms, m.isInner = true) :
      ∀ m ∈ ms, m.isForeign = false := fun m hm => World.Move.isForeign_of_isInner (hms m hm)
  obtain ⟨lost, hb⟩ := h.balanced
  obtain ⟨lost', hrun⟩ := Balanced.exists_run h.balanced (hours hmoves)
  obtain ⟨lost'', hstop⟩ : ∃ lost, Balanced lost (w.run moves).stop := by
    obtain ⟨lost'', hact, -⟩ := hrun.act (m := .send true) rfl
    exact ⟨lost'', hact⟩
  have hstopped : Stopped (w.run moves).stop :=
    Stopped.of_signal (w.run moves) (m := .send true) (Or.inl rfl)
  obtain ⟨motions, hfree, hmotions⟩ := World.exists_motions hb h.going hmoves
  refine ⟨⟨motions, hfree, hmotions.symm⟩, ⟨later.map .move, List.forall_mem_map.2 hlater, ?_, ?_⟩,
    List.nodup_nil, ?_⟩
  · exact List.filterMap_eq_nil_iff.2 (List.forall_mem_map.2 fun _ _ => rfl)
  · rw [← World.goAll_moves hstop hstopped.stop hlater]
    unfold World.goAll
    rw [World.loose_stop]
  · have hsend : World.Move.send false ∉ later := fun hmem => by
      simpa [World.Move.isInner] using hlater _ hmem
    have hover := isOver_of_stopped (hstopped.run hsend).1
      (Balanced.exists_run ⟨lost'', hstop⟩ (hours hlater)) hrest
    exact hover

/-- The end of a run that is stopped at a moment is one of these. -/
theorem ends_close {m : Monitor} {w : World} (h : Opened m w) {moment : Option Nat}
    (hrest : (close w moment).ready = []) : ∃ v, Ends w v [] (close w moment).loose := by
  obtain ⟨v, ⟨moves, hmoves, rfl⟩, hclose⟩ := World.close_eq w moment
  obtain ⟨tasks, hsettle⟩ := World.settleAt_eq (w.run moves).stop World.patience
  replace hclose : close w moment = (w.run moves).stop.run (tasks.map .poll) :=
    hclose.trans hsettle
  rw [hclose] at hrest ⊢
  exact ⟨_, ends_run h hmoves (List.forall_mem_map.2 fun _ _ => rfl) hrest⟩

/-- **What is there at the end of a run:** consumers and workers that were all stopped. What was
published before the stop went to all consumers. After it no more was published than one event by
each worker that was late. -/
structure Closed (m : Monitor) (prompt : List Event) (latecomers : Nat) (w : World) : Prop where
  sustained : Sustained m.sinks.length (Bus.Ebbing m.sinks.length prompt.length) w
  belated : ∃ es, World.eventsIn sent w.log = prompt ++ es ∧ es.length ≤ latecomers
  tasks : ∃ (cs : List Consumer) (ks : List Worker), w.tasks = cs.map .consumer ++ ks.map .worker ∧
    (cs.map Consumer.sink = m.sinks ∧ ∀ c ∈ cs, c.stage = .ended) ∧
    ks.map Worker.name = m.registry.entries.map (·.2.name) ∧
    ∀ k ∈ ks, k.stage = .cancelled ∧ k.run = 0

theorem Opened.sustained {m : Monitor} {w : World} (h : Opened m w) :
    Sustained m.sinks.length (Bus.Wide m.sinks.length) w := by
  obtain ⟨lost, hb⟩ := h.balanced
  exact ⟨⟨_, lost, .of_balanced hb⟩, h.recorded, h.served⟩

theorem Opened.closed {m : Monitor} {w v w' : World} {late : List Nat} (h : Opened m w)
    (hends : Ends w v late w') (halive : w'.Alive) :
    Closed m (World.eventsIn sent v.log) (late.filter fun i => (v.stageAt i).isSome).length w' := by
  obtain ⟨⟨motions, hfree, rfl⟩, ⟨more, hinner, rfl, rfl⟩, -, hover⟩ := hends
  have halive' : (w.goAll motions).Alive := by
    unfold Alive
    rw [← World.tasks_stop]
    exact halive.of_goAll
  have hbefore := h.sustained.goAll (Bus.Wide.follows _) hfree halive'
  obtain ⟨hlast, hsent⟩ := hbefore.stop.goAll_stopped (World.isStop_stop _) hinner halive
  simp only [World.log_stop, World.stageAt_stop] at hsent
  refine ⟨hlast, hsent, ?_⟩
  obtain ⟨cs, ks, hroster, hsinks, hnames, hruns⟩ := h.roster
  have hbegun : (w.goAll motions).roster = w.roster :=
    World.roster_goAll fun m hm => Motion.isInner_of_isFree (hfree m hm)
  rw [← hbegun, ← World.roster_stop, ← World.roster_goAll hinner] at hroster
  obtain ⟨cs', ks', htasks, rfl, rfl⟩ := exists_consumers_workers hroster
  rw [List.map_map] at hsinks hnames
  refine ⟨cs', ks', htasks, ⟨hsinks, fun c hc => ?_⟩, hnames, fun k hk => ⟨?_, ?_⟩⟩
  · have hmem : Task.consumer c ∈ ((w.goAll motions).stop.goAll more).tasks := by
      rw [htasks]
      exact List.mem_append_left _ (List.mem_map_of_mem hc)
    have hended := hover _ hmem
    have hdead := halive _ hmem
    cases hs : c.stage <;> simp_all [Task.isOver, Task.isDead, ConsumerStage.isOver]
  · have hmem : Task.worker k ∈ ((w.goAll motions).stop.goAll more).tasks := by
      rw [htasks]
      exact List.mem_append_right _ (List.mem_map_of_mem hk)
    have hended := hover _ hmem
    have hdead := halive _ hmem
    cases hs : k.stage <;> simp_all [Task.isOver, Task.isDead, Stage.isOver]
  · exact hruns k.fresh (List.mem_map_of_mem hk)

/-! ### What the report says -/

namespace Closed

variable {m : Monitor} {w : World} {prompt : List Event} {latecomers : Nat}

/-- The report has a worker for each provider, and their counts are those of all tasks. -/
theorem workers_report (h : Closed m prompt latecomers w) :
    (report w).workers.map (·.provider) = m.registry.entries.map (·.2.name) ∧
    ((report w).workers.map (·.tally.published)).sum = (w.tasks.map Task.published).sum := by
  obtain ⟨cs, ks, htasks, -, hnames, hcancelled⟩ := h.tasks
  have hover : ∀ (i : Nat) (k : Worker), w.tasks[i]? = some (.worker k) →
      k.stage.isOver = true := by
    intro i k hk
    have hmem := List.mem_of_getElem? hk
    rw [htasks] at hmem
    rcases List.mem_append.1 hmem with hmem | hmem
    · simp at hmem
    · obtain ⟨k', hk', heq⟩ := List.mem_map.1 hmem
      rw [← Task.worker.inj heq, (hcancelled k' hk').1]
      rfl
  have hworkers : (report w).workers = ks.map Worker.summary := by
    change (w.result? 0).getD [] = _
    rw [(World.result?_of_isOver hover 0).1, World.workers_of_tasks htasks fun k hk =>
      (hcancelled k hk).2, Option.getD_some, ← List.filterMap_eq_map]
    exact List.filterMap_congr fun k hk => if_pos (hcancelled k hk).1
  rw [hworkers, List.map_map, List.map_map]
  refine ⟨hnames, ?_⟩
  rw [htasks, List.map_append, List.sum_append, List.map_map, List.map_map]
  have hzero : (cs.map (Task.published ∘ Task.consumer)).sum = 0 :=
    List.sum_eq_zero fun n hn => by
      obtain ⟨c, -, rfl⟩ := List.mem_map.1 hn
      rfl
  rw [hzero, Nat.zero_add]
  rfl

/-- The report has a consumer for each sink, and these are the first tasks. -/
theorem consumers_report (h : Closed m prompt latecomers w) :
    (report w).consumers.map (·.consumer) = m.sinks.map (·.name) ∧
    ∀ j s, (report w).consumers[j]? = some s → ∃ c, w.tasks[j]? = some (.consumer c) ∧
      c.stage = .ended ∧ c.report? = some s ∧ s.tally = c.tally ∧ j < m.sinks.length := by
  obtain ⟨cs, ks, htasks, ⟨hsinks, hended⟩, -, -⟩ := h.tasks
  have hreport : ∀ c ∈ cs, c.report? = some ⟨c.sink.name, c.tally⟩ := fun c hc => by
    unfold Consumer.report?
    rw [hended c hc]
  have hconsumers : (report w).consumers = cs.map fun c => ⟨c.sink.name, c.tally⟩ := by
    change w.consumers.filterMap Consumer.report? = _
    rw [World.consumers_of_tasks htasks, ← List.filterMap_eq_map]
    exact List.filterMap_congr hreport
  rw [hconsumers]
  refine ⟨?_, fun j s hs => ?_⟩
  · rw [List.map_map, ← hsinks, List.map_map]
    rfl
  · rw [List.getElem?_map] at hs
    obtain ⟨c, hcj, rfl⟩ := Option.map_eq_some_iff.1 hs
    have hj := (List.getElem?_eq_some_iff.1 hcj).1
    have hmem := List.mem_of_getElem? hcj
    refine ⟨c, ?_, hended c hmem, hreport c hmem, rfl, ?_⟩
    · rw [htasks, List.getElem?_append_left (by simpa using hj), List.getElem?_map, hcj]
      rfl
    · rw [← hsinks, List.length_map]
      exact hj

/-- **What the bus has counted:** all that was published, and no fewer deliveries than there are of
what was published before the stop. -/
theorem counts_report (h : Closed m prompt latecomers w) :
    (report w).eventsPublished = (World.eventsIn sent w.log).length ∧
    prompt.length * m.sinks.length ≤ (report w).deliveries ∧
    (report w).deliveries ≤ (report w).eventsPublished * m.sinks.length := by
  obtain ⟨posed, lost, hkept⟩ := h.sustained.kept
  have hpublished : (report w).eventsPublished = (World.eventsIn sent w.log).length :=
    hkept.ledger.counted
  rw [hpublished]
  exact ⟨rfl, h.sustained.served.bus.least, h.sustained.served.bus.most⟩

/-- If nobody was late, everything was delivered to everybody. -/
theorem deliveries_of_punctual (h : Closed m prompt 0 w) :
    (report w).deliveries = (report w).eventsPublished * m.sinks.length := by
  obtain ⟨hpublished, hleast, hmost⟩ := h.counts_report
  obtain ⟨es, hes, hle⟩ := h.belated
  obtain rfl := List.length_eq_zero_iff.1 (Nat.le_zero.1 hle)
  rw [List.append_nil] at hes
  rw [← hes, ← hpublished] at hleast
  exact Nat.le_antisymm hmost hleast

end Closed

/-- **The report of a monitor balances.** For a run that begins, that is stopped and ends in
whatever way, and in which no task is taken down:

* the workers stand in the order of registration, the consumers in the order in which their sinks
  were added;
* the published events are those that the workers say that they published, and no more of them
  than keys are in the store;
* the events published before the stop come first, and each worker that was late published one more
  at most. There is a delivery for each consumer and each event published before the stop, and none
  besides but for each consumer and each later event. So if no worker was late, there is one for
  each consumer and each event;
* what a consumer took off its queue is a first part of what was published, in the one order of all
  consumers. It is as long as the consumer says, and all of it was processed or failed, but for one
  event at most. -/
theorem report_balances {m : Monitor} {w v w' : World} {late : List Nat}
    (hopen : m.open? = .ok w) (hends : Ends w v late w') (halive : w'.Alive) :
    let r := report w'
    let published := World.eventsIn sent w'.log
    let prompt := World.eventsIn sent v.log
    let latecomers := late.filter fun i => (v.stageAt i).isSome
    (r.workers.map (·.provider) = m.registry.entries.map (·.2.name) ∧
      r.consumers.map (·.consumer) = m.sinks.map (·.name)) ∧
    (r.eventsPublished = published.length ∧
      r.eventsPublished = (r.workers.map (·.tally.published)).sum ∧
      r.eventsPublished ≤ r.uniqueEvents) ∧
    (prompt <+: published ∧ published.length ≤ prompt.length + latecomers.length ∧
      prompt.length * m.sinks.length ≤ r.deliveries ∧
      r.deliveries ≤ r.eventsPublished * m.sinks.length ∧
      (latecomers = [] → r.deliveries = r.eventsPublished * m.sinks.length)) ∧
    ∀ j s, r.consumers[j]? = some s →
      (w'.tasks[j]?.bind Task.consumer?).bind Consumer.report? = some s ∧
      World.eventsIn Occurrence.received (World.ofTask j w'.log) =
        published.take s.tally.received ∧
      s.tally.received ≤ r.eventsPublished ∧
      (s.tally.received = s.tally.processed + s.tally.failures ∨
        s.tally.received = s.tally.processed + s.tally.failures + 1) := by
  intro r published prompt latecomers
  have hc : Closed m prompt latecomers.length w' :=
    (Opened.of_open? hopen).closed hends halive
  obtain ⟨posed, lost, hkept⟩ := hc.sustained.kept
  obtain ⟨hproviders, hsum⟩ := hc.workers_report
  obtain ⟨hsinks, hconsumers⟩ := hc.consumers_report
  obtain ⟨hpublished, hleast, hmost⟩ := hc.counts_report
  obtain ⟨es, hes, hle⟩ := hc.belated
  refine ⟨⟨hproviders, hsinks⟩, ⟨hpublished, ?_, ?_⟩, ⟨⟨es, hes.symm⟩, ?_, hleast, hmost,
    fun hnobody => ?_⟩, fun j s hs => ?_⟩
  · rw [hpublished, hc.sustained.recorded.length_sent hkept.ours, hsum]
  · rw [hpublished]
    have hperm := (hkept.ledger.keys_perm hkept.ledger.known).length_eq
    rw [List.length_map, List.append_assoc, List.length_append] at hperm
    exact (Nat.le_add_right _ _).trans hperm.ge
  · change (World.eventsIn sent w'.log).length ≤ _
    rw [hes, List.length_append]
    exact Nat.add_le_add_left hle _
  · rw [hnobody] at hc
    exact hc.deliveries_of_punctual
  · obtain ⟨c, htask, hstage, hreport, htally, hj⟩ := hconsumers j s hs
    obtain ⟨hcounted, -, heven⟩ := hc.sustained.recorded.counted j _ (by simp) htask
    have htaken : World.takenBy w'.log j <+: published := hc.sustained.served.bus.taken j hj
    have hreceived : s.tally.received = (World.takenBy w'.log j).length := by
      rw [htally, hcounted, ConsumerTally.received_told]
      rfl
    refine ⟨?_, ?_, ?_, ?_⟩
    · rw [htask]
      exact hreport
    · rw [hreceived]
      exact List.prefix_iff_eq_take.1 htaken
    · rw [hpublished, hreceived]
      exact htaken.length_le
    · unfold Consumer.Even at heven
      rw [hstage] at heven
      rw [htally]
      exact heven

/-- A worker finds three events and publishes the first. It is about to publish the second when the
monitor is stopped. One of the consumers has left when that is published, and the other has begun
with the first event. -/
theorem report_balances_of_late :
    let event := fun id : String => (⟨id, "a", "", "", default⟩ : Event)
    let provider : Provider :=
      { name := "a", interval := 5
        fetch := fun _ => { outcome := .events [event "1", event "2", event "3"] } }
    let m : Monitor :=
      { settings := { concurrencyLimit := 1, queueCapacity := some 4 }
        registry := ⟨[("a", provider)], by decide⟩
        sinks := [{ name := "slow", handle := fun _ _ => { delay := 4 } },
          { name := "bad", handle := fun _ _ => { outcome := .failed } }] }
    let w := m.open?.toOption.getD default
    let v := w.goAll [.stride 2, .stride 2, .stride 2, .stride 0]
    let w' := v.stop.goAll [.move (.poll 1), .stride 2, .move (.poll 2), .move (.poll 0)]
    let r := report w'
    (m.open? = .ok w ∧ Ends w v [2] w' ∧ w'.Alive) ∧
      r = ⟨[⟨"a", { cycles := 1, fetched := 3, published := 2 }, .cancelled⟩],
        [⟨"slow", { received := 1 }⟩, ⟨"bad", {}⟩], 2, 3, 3⟩ ∧
      (World.eventsIn sent v.log).length * m.sinks.length ≤ r.deliveries ∧
      r.deliveries ≤ r.eventsPublished * m.sinks.length := by
  intro event provider m w v w' r
  have hopen : m.open? = .ok w := rfl
  have hends : Ends w v [2] w' :=
    ⟨⟨_, by decide, rfl⟩, ⟨_, by decide, rfl, rfl⟩, by decide, by decide +kernel⟩
  have halive : w'.Alive := by
    unfold World.Alive
    decide +kernel
  obtain ⟨-, -, ⟨-, -, hleast, hmost, -⟩, -⟩ := report_balances hopen hends halive
  exact ⟨⟨hopen, hends, halive⟩, by decide +kernel, hleast, hmost⟩

/-- **Not every event reaches every consumer.** A worker has looked at the signal, and is about to
publish its only event. The monitor is stopped, its only consumer leaves, and the event is
published. -/
theorem delivered_to_nobody :
    let provider : Provider :=
      { name := "a", interval := 5
        fetch := fun _ => { outcome := .events [⟨"1", "a", "", "", default⟩] } }
    let m : Monitor :=
      { settings := { concurrencyLimit := 1, queueCapacity := none }
        registry := ⟨[("a", provider)], by decide⟩
        sinks := [{ name := "sink", handle := fun _ _ => {} }] }
    let w := m.open?.toOption.getD default
    let v := w.goAll [.stride 1, .stride 1]
    let w' := v.stop.goAll [.move (.poll 0), .stride 1, .move (.poll 1)]
    let r := report w'
    (m.open? = .ok w ∧ Ends w v [1] w' ∧ w'.Alive) ∧
      r = ⟨[⟨"a", { cycles := 1, fetched := 1, published := 1 }, .cancelled⟩], [⟨"sink", {}⟩],
        1, 0, 1⟩ ∧
      r.deliveries ≠ r.eventsPublished * r.consumers.length := by
  intro provider m w v w' r
  refine ⟨⟨rfl, ⟨⟨_, by decide, rfl⟩, ⟨_, by decide, rfl, rfl⟩, by decide, by decide +kernel⟩, ?_⟩,
    by decide +kernel, by decide +kernel⟩
  unfold World.Alive
  decide +kernel

/-- **On one thread every event reaches every consumer.** -/
theorem deliveries_close {m : Monitor} {w : World} (hopen : m.open? = .ok w) {moment : Option Nat}
    (hrest : (close w moment).ready = []) (halive : (close w moment).Alive) :
    (report (close w moment)).deliveries =
      (report (close w moment)).eventsPublished * m.sinks.length := by
  have ho := Opened.of_open? hopen
  obtain ⟨v, hends⟩ := ends_close ho hrest
  exact (ho.closed hends halive).deliveries_of_punctual

end Monitor
end StatusRelay
