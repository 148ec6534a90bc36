/-
# Metrics and reports

The metrics and the summaries count the same things apart from each other. The metrics count
everything that happens under the name of a provider or a consumer, from the moment they have been
set up; a worker or a consumer counts what happens to it, and leaves a summary at its end.

| the metrics | the summaries with the name |
| --- | --- |
| events new and known before, together | events fetched |
| events known before, published, faults | the same |
| fetches that came to an end | cycles, but for those abandoned: one of each worker at most |
| events handled well, and not | processed, failures |

Both are read off the record. What is told under a name is told of the tasks with the name, so the
record is taken apart by tasks, and each part compared with the counts of its task.
-/

import Mathlib.Algebra.BigOperators.Group.List.Lemmas
import StatusRelay.Proofs.World.Balance
import StatusRelay.Proofs.World.Labels

namespace StatusRelay

variable {M : Type} [AddCommMonoid M]

/-! ### Sums taken apart -/

theorem sum_range_ite (a : M) {i n : Nat} (h : i < n) :
    ((List.range n).map fun j => if i = j then a else 0).sum = a := by
  induction n with
  | zero => exact absurd h (Nat.not_lt_zero i)
  | succ n ih =>
    rw [List.range_succ, List.map_append, List.sum_append]
    by_cases hi : i = n
    · subst hi
      have hnone : ((List.range i).map fun j => if i = j then a else 0) =
          (List.range i).map fun _ => 0 :=
        List.map_congr_left fun j hj => if_neg (Nat.ne_of_gt (List.mem_range.1 hj))
      rw [hnone]
      simp
    · rw [ih (by omega)]
      simp [hi]

/-- **A sum is the sum over the parts** into which a number sorts a list. -/
theorem sum_map_eq_sum_parts {α : Type} (f : α → M) (key : α → Nat) {n : Nat} {l : List α}
    (h : ∀ a ∈ l, key a < n) : (l.map f).sum =
      ((List.range n).map fun i => ((l.filter (key · == i)).map f).sum).sum := by
  induction l with
  | nil => simp
  | cons a l ih =>
    have hparts : ∀ i, (((a :: l).filter (key · == i)).map f).sum =
        (if key a = i then f a else 0) + ((l.filter (key · == i)).map f).sum := by
      intro i
      rw [List.filter_cons]
      by_cases hi : key a = i <;> simp [hi]
    rw [List.map_cons, List.sum_cons, ih fun b hb => h b (List.mem_cons_of_mem _ hb),
      List.map_congr_left fun i _ => hparts i, List.sum_map_add,
      sum_range_ite (f a) (h a List.mem_cons_self)]

/-! ### What a record tells, and what is measured of it -/

/-- How many fetches were abandoned. -/
def World.abandonedIn (log : List Occurrence.Entry) : Nat :=
  log.countP (·.what == .fetchAbandoned)

namespace WorkerTally

open World

/-- Cycles only. -/
def ofCycles : Nat →+ WorkerTally where
  toFun n := { cycles := n }
  map_zero' := rfl
  map_add' _ _ := rfl

/-- **A worker counts what is measured of it,** but for the cycles: one is counted when its fetch
begins, and measured when the fetch has come to its end. -/
theorem add_eq (t : WorkerTally) (what : Occurrence) :
    ((t.add what).cycles : Int) = t.cycles + what.measured.cycles +
        (if what == .fetchAbandoned then 1 else 0) + what.inFlightChange ∧
      (t.add what).fetched = t.fetched + what.measured.fetched ∧
      (t.add what).published = t.published + what.measured.published ∧
      (t.add what).duplicates = t.duplicates + what.measured.duplicates ∧
      (t.add what).faults = t.faults + what.measured.faults := by
  cases what with
  | fetchEnded name elapsed outcome =>
    cases hfault : outcome.isFault <;>
      simp [add, Occurrence.measured, Occurrence.inFlightChange, hfault]
  | _ => refine ⟨?_, ?_, ?_, ?_, ?_⟩ <;> simp [add, Occurrence.measured, Occurrence.inFlightChange]

theorem told_eq (log : List Occurrence.Entry) (n : Nat) (h : inFlight log = n) :
    told log = (log.map fun e => e.what.measured).sum + ofCycles (n + abandonedIn log) := by
  have hall : let sum := (log.map fun e => e.what.measured).sum
      ((told log).cycles : Int) = sum.cycles + abandonedIn log + inFlight log ∧
        (told log).fetched = sum.fetched ∧ (told log).published = sum.published ∧
        (told log).duplicates = sum.duplicates ∧ (told log).faults = sum.faults := by
    clear h
    induction log with
    | nil => exact ⟨rfl, rfl, rfl, rfl, rfl⟩
    | cons e log ih =>
      have hadd := add_eq (told log) e.what
      rw [told_cons, abandonedIn, List.countP_cons, ← abandonedIn, inFlight_cons]
      simp only [List.map_cons, List.sum_cons, cycles_add, fetched_add, published_add,
        duplicates_add, faults_add]
      split_ifs at hadd ⊢ <;> omega
  obtain ⟨hcycles, hfetched, hpublished, hduplicates, hfaults⟩ := hall
  ext
  · change _ = _ + (n + abandonedIn log)
    omega
  · exact hfetched
  · exact hpublished
  · exact hduplicates
  · exact hfaults

end WorkerTally

/-- What a consumer counts is measured of it. -/
theorem ConsumerTally.told_eq (log : List Occurrence.Entry) :
    ((told log).processed, (told log).failures) = (log.map fun e => e.what.handledWell).sum := by
  induction log with
  | nil => rfl
  | cons e log ih =>
    rw [List.map_cons, List.sum_cons, ← ih]
    change ((told log).add e.what |>.processed, (told log).add e.what |>.failures) = _
    cases e.what with
    | handled name event outcome =>
      cases hok : outcome.isSuccess <;>
        simp [add, Occurrence.handledWell, hok, Nat.add_comm]
    | _ => simp [add, Occurrence.handledWell]

/-! ### Fetches abandoned -/

/-- How many fetches of the worker were abandoned. -/
def Station.abandoned : Station → Nat
  | leaving => 1
  | gone _ abandoned => if abandoned then 1 else 0
  | _ => 0

namespace World

open Occurrence (Entry)
open Station (Path Step)

variable {w : World} {log : List Entry}

theorem abandoned_of_step {s s' : Station} {what : Occurrence} (h : Step s what s') :
    s'.abandoned = s.abandoned + if what == .fetchAbandoned then 1 else 0 := by
  cases h <;> rfl

theorem abandonedIn_of_path {s : Station} (h : Path (.holding []) log s) :
    abandonedIn log = s.abandoned := by
  induction h with
  | nil => rfl
  | cons e _ hstep ih => rw [abandonedIn, List.countP_cons, ← abandonedIn, ih, abandoned_of_step hstep]

/-- **A worker abandons one fetch at most.** -/
theorem Reads.abandonedIn_le {start : World} {moves : List Move} {i : Nat} {stage : Stage}
    (h : Reads start moves i log stage) : abandonedIn log ≤ 1 := by
  have hone : ∀ s : Station, s.abandoned ≤ 1 := by
    intro s
    unfold Station.abandoned
    split
    · exact Nat.le_refl 1
    · split <;> decide
    · exact Nat.zero_le 1
  rcases h with hpath | ⟨-, lost, abandoned, hpath, -⟩
  · rw [abandonedIn_of_path hpath]
    exact hone _
  · rw [abandonedIn_of_path hpath]
    exact hone _

/-! ### Sums over the tasks with a name -/

/-- The sum of something over the tasks with a label, given by their numbers. -/
def sumUnder (w : World) (label : Label) (f : Nat → M) : M :=
  ((List.range w.tasks.length).map fun i =>
    if w.tasks[i]?.bind Task.label? = some label then f i else 0).sum

theorem sumUnder_congr {label : Label} {f g : Nat → M}
    (h : ∀ i t, w.tasks[i]? = some t → t.label? = some label → f i = g i) :
    w.sumUnder label f = w.sumUnder label g := by
  refine congrArg List.sum (List.map_congr_left fun i _ => ?_)
  split
  · rename_i hlabel
    obtain ⟨t, ht, hlabel⟩ := Option.bind_eq_some_iff.1 hlabel
    exact h i t ht hlabel
  · rfl

theorem sumUnder_add (label : Label) (f g : Nat → M) :
    w.sumUnder label (fun i => f i + g i) = w.sumUnder label f + w.sumUnder label g := by
  unfold sumUnder
  rw [← List.sum_map_add]
  refine congrArg List.sum (List.map_congr_left fun i _ => ?_)
  split
  · rfl
  · exact (add_zero 0).symm

/-- **What is told under a name is told of the tasks with the name.** -/
theorem Labelled.sum_log (h : Labelled w) (hknown : ∀ e ∈ w.log, e.task < w.tasks.length)
    (label : Label) {amount : Occurrence → M}
    (hamount : ∀ what : Occurrence, what.label? = none → amount what = 0) :
    (w.log.map fun e => if e.what.label? = some label then amount e.what else 0).sum =
      w.sumUnder label fun i => ((ofTask i w.log).map fun e => amount e.what).sum := by
  rw [sum_map_eq_sum_parts _ (·.task) hknown]
  refine congrArg List.sum (List.map_congr_left fun i hi => ?_)
  have ht := List.getElem?_eq_getElem (List.mem_range.1 hi)
  change ((ofTask i w.log).map _).sum = _
  rw [ht, Option.bind_some]
  split
  · rename_i hlabel
    refine congrArg List.sum (List.map_congr_left fun e he => ?_)
    rcases h.label?_of_mem ht he with hnone | hsome
    · rw [hnone, hamount _ hnone]
      simp
    · rw [hsome, if_pos hlabel]
  · rename_i hlabel
    refine List.sum_eq_zero fun x hx => ?_
    obtain ⟨e, he, rfl⟩ := List.mem_map.1 hx
    refine if_neg fun heq => hlabel ?_
    rcases h.label?_of_mem ht he with hnone | hsome
    · simp [hnone] at heq
    · rw [← hsome, heq]

theorem map_sumUnder {N : Type} [AddCommMonoid N] (φ : M →+ N) (label : Label) (f : Nat → M) :
    φ (w.sumUnder label f) = w.sumUnder label fun i => φ (f i) := by
  unfold sumUnder
  rw [map_list_sum, List.map_map]
  refine congrArg List.sum (List.map_congr_left fun i _ => ?_)
  simp only [Function.comp_apply]
  split
  · rfl
  · exact map_zero φ

/-- The sum over the tasks with a label is one over those that are picked. -/
theorem sumUnder_eq {β : Type} {label : Label} {f : Nat → M} (pick : Task → Option β) (g : β → M)
    (h : ∀ i t, w.tasks[i]? = some t →
      (if t.label? = some label then f i else 0) = ((pick t).map g).getD 0) :
    w.sumUnder label f = ((w.tasks.filterMap pick).map g).sum := by
  have hpick : ∀ ts : List Task, ((ts.filterMap pick).map g).sum =
      (ts.map fun t => ((pick t).map g).getD 0).sum := by
    intro ts
    induction ts with
    | nil => rfl
    | cons t ts ih =>
      rw [List.filterMap_cons, List.map_cons, List.sum_cons, ← ih]
      cases pick t <;> simp
  rw [hpick]
  refine congrArg List.sum (List.ext_getElem (by simp) fun i hi hi' => ?_)
  have ht := List.getElem?_eq_getElem (l := w.tasks) (i := i) (by simpa using hi')
  rw [List.getElem_map, List.getElem_map, List.getElem_range, ht, Option.bind_some]
  exact h i _ ht

end World

/-! ### Summaries -/

/-- What the summaries with the name of a provider come to together. -/
def WorkerSummary.totalOf (provider : String) (ss : List WorkerSummary) : WorkerTally :=
  (ss.map fun s => if s.provider = provider then s.tally else 0).sum

/-- What the summaries with the name of a consumer come to together: events processed, and
failures. -/
def ConsumerSummary.totalOf (consumer : String) (ss : List ConsumerSummary) : Nat × Nat :=
  (ss.map fun s => if s.consumer = consumer then (s.tally.processed, s.tally.failures) else 0).sum

namespace World

open Occurrence (Entry)

variable {w : World}

/-- The summaries in which the runs have resulted, one run after another. -/
def summaries (w : World) : List WorkerSummary :=
  (List.range w.runs).flatMap fun run => (w.result? run).getD []

/-- With one run, these are what a monitor reports of its workers. -/
theorem summaries_of_single (h : w.runs = 1) : w.summaries = (Monitor.report w).workers := by
  simp [Monitor.report, summaries, h]

/-- The fetches of a task that have not come to an end: they go on, or were abandoned. -/
def unmeasured (w : World) (i : Nat) : Nat := fetchesOf none 0 w i + abandonedIn (ofTask i w.log)

/-- **At every moment the metrics tell of a provider what its workers count,** but for the cycles
whose fetches go on or were abandoned. -/
theorem measuredOf_run {m : Metrics} (hm : m.active = true) (limit : Nat) (capacity : Option Nat)
    (providers : List Provider) (moves : List Move) (name : String) :
    let w := (World.new limit capacity providers).run moves
    (m.observeAll w.log).measuredOf name +
        WorkerTally.ofCycles (w.sumUnder (.provider name) w.unmeasured) =
      m.measuredOf name +
        WorkerSummary.totalOf name ((w.tasks.filterMap Task.worker?).map Worker.summary) := by
  intro w
  have hr : Recorded none w := (Recorded.initial limit capacity providers).run moves
  have ha : Accounts limit none 0 0 w := (Accounts.initial limit capacity providers).run moves
  have hl : Labelled w := Labelled.run limit capacity providers moves
  have htold : w.sumUnder (.provider name) (fun i => WorkerTally.told (ofTask i w.log)) =
      WorkerSummary.totalOf name ((w.tasks.filterMap Task.worker?).map Worker.summary) := by
    rw [WorkerSummary.totalOf, List.map_map]
    refine sumUnder_eq Task.worker? _ fun i t ht => ?_
    cases t with
    | worker k =>
      have htally := (hr.counted i _ (by simp) ht).1
      by_cases hname : k.name = name <;>
        simp [Task.label?, Task.worker?, Worker.summary, ← htally, hname]
    | consumer c => simp [Task.label?, Task.worker?]
    | publisher event stage => simp [Task.label?, Task.worker?]
  rw [Metrics.measuredOf_observeAll hm,
    hl.sum_log hr.known (.provider name) fun _ => Occurrence.measured_of_no_label, map_sumUnder,
    add_assoc, ← sumUnder_add, ← htold]
  refine congrArg (m.measuredOf name + ·) (sumUnder_congr fun i t ht hlabel => ?_)
  exact (WorkerTally.told_eq _ _ (ha.told.own i)).symm

/-- **At every moment the metrics tell of a consumer what those with the name count.** -/
theorem handledBy_run {m : Metrics} (hm : m.active = true) (limit : Nat) (capacity : Option Nat)
    (providers : List Provider) (moves : List Move) (name : String) :
    let w := (World.new limit capacity providers).run moves
    (m.observeAll w.log).handledBy name = m.handledBy name +
      ConsumerSummary.totalOf name (w.consumers.map fun c => ⟨c.sink.name, c.tally⟩) := by
  intro w
  have hr : Recorded none w := (Recorded.initial limit capacity providers).run moves
  have hl : Labelled w := Labelled.run limit capacity providers moves
  rw [Metrics.handledBy_observeAll hm,
    hl.sum_log hr.known (.consumer name) fun _ => Occurrence.handledWell_of_no_label,
    ConsumerSummary.totalOf, List.map_map]
  refine congrArg (m.handledBy name + ·) (sumUnder_eq Task.consumer? _ fun i t ht => ?_)
  cases t with
  | worker k => simp [Task.label?, Task.consumer?]
  | consumer c =>
    have htally := (hr.counted i _ (by simp) ht).1
    rw [← ConsumerTally.told_eq, ← htally]
    by_cases hname : c.sink.name = name <;> simp [Task.label?, Task.consumer?, hname]
  | publisher event stage => simp [Task.label?, Task.consumer?]

/-! ### Reports -/

/-- No task died, and all workers and consumers have come to their end. -/
structure Finished (w : World) : Prop where
  alive : w.Alive
  ended : ∀ t ∈ w.tasks, t.isStoppable = false

namespace Finished

theorem worker (h : Finished w) {k : Worker} (hk : Task.worker k ∈ w.tasks) :
    k.stage = .cancelled := by
  have halive := h.alive _ hk
  have hover := h.ended _ hk
  cases hstage : k.stage <;>
    simp_all [Task.isStoppable, Task.isOver, Task.isDead, Stage.isOver]

theorem consumer (h : Finished w) {c : Consumer} (hc : Task.consumer c ∈ w.tasks) :
    c.stage = .ended := by
  have halive := h.alive _ hc
  have hover := h.ended _ hc
  cases hstage : c.stage <;>
    simp_all [Task.isStoppable, Task.isOver, Task.isDead, ConsumerStage.isOver]

/-- Every consumer has left a summary. -/
theorem reports (h : Finished w) : w.consumers.filterMap Consumer.report? =
    w.consumers.map fun c => ⟨c.sink.name, c.tally⟩ := by
  rw [← List.filterMap_eq_map]
  refine List.filterMap_congr fun c hc => ?_
  obtain ⟨t, ht, hpick⟩ := List.mem_filterMap.1 hc
  have hmem : Task.consumer c ∈ w.tasks := by
    cases t with
    | consumer c' => exact Option.some.inj hpick ▸ ht
    | worker k => simp [Task.consumer?] at hpick
    | publisher event stage => simp [Task.consumer?] at hpick
  simp [Consumer.report?, h.consumer hmem]

/-- Every run has resulted in the summaries of all its workers. -/
theorem result? (h : Finished w) (run : Nat) :
    w.result? run = some ((w.workers run).map Worker.summary) := by
  have hcancelled : ∀ k ∈ w.workers run, k.stage = .cancelled := fun k hk =>
    h.worker (mem_filterMap_worker?.1 (List.mem_filter.1 hk).1)
  have hover : ∀ (i : Nat) (k : Worker), w.tasks[i]? = some (.worker k) →
      k.stage.isOver = true := fun i k hk => by
    rw [h.worker (List.mem_of_getElem? hk)]
    rfl
  rw [(result?_of_isOver hover run).1, ← List.filterMap_eq_map]
  exact congrArg some (List.filterMap_congr fun k hk => if_pos (hcancelled k hk))

/-- The summaries of all runs are those of all workers. -/
theorem totalOf_summaries (h : Finished w)
    (hruns : ∀ k ∈ w.tasks.filterMap Task.worker?, k.run < w.runs) (name : String) :
    WorkerSummary.totalOf name w.summaries =
      WorkerSummary.totalOf name ((w.tasks.filterMap Task.worker?).map Worker.summary) := by
  rw [WorkerSummary.totalOf, WorkerSummary.totalOf, List.map_map,
    sum_map_eq_sum_parts _ Worker.run hruns, summaries, List.map_flatMap,
    List.flatMap_def, List.sum_flatten, List.map_map]
  refine congrArg List.sum (List.map_congr_left fun run _ => ?_)
  rw [Function.comp_apply, h.result?, Option.getD_some, List.map_map]
  rfl

end Finished

/-- A worker belongs to a run that was started. -/
theorem run_lt_runs (limit : Nat) (capacity : Option Nat) (providers : List Provider)
    (moves : List Move) :
    let w := (World.new limit capacity providers).run moves
    ∀ k ∈ w.tasks.filterMap Task.worker?, k.run < w.runs := by
  intro w k hk
  obtain ⟨more, hroster, -, hruns⟩ := roster_run (World.new limit capacity providers) moves
  refine (hruns k.fresh ?_).2
  have hmem : Task.worker k.fresh ∈ w.roster := List.mem_map_of_mem (mem_filterMap_worker?.1 hk)
  rwa [show w.roster = more from hroster] at hmem

/-- How many fetches the workers with a name have abandoned. -/
def abandonedBy (w : World) (provider : String) : Nat :=
  w.sumUnder (.provider provider) fun i => abandonedIn (ofTask i w.log)

theorem Finished.sumUnder_unmeasured (h : Finished w) (provider : String) :
    w.sumUnder (.provider provider) w.unmeasured = w.abandonedBy provider := by
  refine sumUnder_congr fun i t ht hlabel => ?_
  cases t with
  | worker k =>
    have hstage := stageAt_of_worker ht
    rw [h.worker (List.mem_of_getElem? ht)] at hstage
    simp [unmeasured, fetchesOf, hstage, Stage.isFetching]
  | consumer c => simp [Task.label?] at hlabel
  | publisher event stage => simp [Task.label?] at hlabel

theorem inFlight_eq_sum (log : List Entry) :
    inFlight log = (log.map fun e => e.what.inFlightChange).sum := by
  induction log with
  | nil => rfl
  | cons e log ih => rw [inFlight_cons, ih, List.map_cons, List.sum_cons]

/-- **The metrics agree with the reports.** Once they have been set up, whatever happens:

* the gauge has grown by as many fetches as go on at the moment, and the deliveries by those that
  the bus counts;
* a worker has abandoned one fetch at most.

If no task died, and all workers and consumers have come to their end, then under every name:

* the events new and known before are together those that the summaries call fetched; those known
  before, those published and the faults are theirs; and the fetches that came to an end are as
  many as their cycles, but for those that were abandoned;
* the events handled well and not are those that the summaries of the consumers call processed and
  failures. -/
theorem metrics_match_summaries {m : Metrics} (hm : m.active = true) (limit : Nat)
    (capacity : Option Nat) (providers : List Provider) (moves : List Move) :
    let w := (World.new limit capacity providers).run moves
    let m' := m.observeAll w.log
    (m'.inFlight = m.inFlight + w.fetchers.length ∧
      m'.busDeliveries.total = m.busDeliveries.total + w.bus.stats.deliveries) ∧
    (∀ i k, w.tasks[i]? = some (.worker k) → abandonedIn (ofTask i w.log) ≤ 1) ∧
    (w.Finished → ∀ name,
      m'.measuredOf name + .ofCycles (w.abandonedBy name) =
        m.measuredOf name + WorkerSummary.totalOf name w.summaries ∧
      m'.handledBy name = m.handledBy name +
        ConsumerSummary.totalOf name (w.consumers.filterMap Consumer.report?)) := by
  intro w m'
  have ha : Accounts limit none 0 0 w := (Accounts.initial limit capacity providers).run moves
  have hl : Labelled w := Labelled.run limit capacity providers moves
  refine ⟨⟨?_, ?_⟩, fun i k hk => ?_, fun hfinished name => ⟨?_, ?_⟩⟩
  · rw [Metrics.inFlight_observeAll hm, ← inFlight_eq_sum, ha.told.balance, fetchers_eq]
    rfl
  · rw [Metrics.deliveries_observeAll hm, hl.deliveries]
    rfl
  · exact (reads_run limit capacity providers moves i k.stage (stageAt_of_worker hk)).abandonedIn_le
  · rw [hfinished.totalOf_summaries (run_lt_runs limit capacity providers moves),
      ← hfinished.sumUnder_unmeasured]
    exact measuredOf_run hm limit capacity providers moves name
  · rw [hfinished.reports]
    exact handledBy_run hm limit capacity providers moves name

/-- One worker is stopped while it fetches. Another has fetched three events, two of them with one
key, and a consumer has handled one of them well and failed at the other. -/
theorem metrics_match_summaries_of_stop :
    let m := (Metrics.setUp {}).2
    let event := fun id : String => (⟨id, "b", "", "", default⟩ : Event)
    let slow : Provider := { name := "a", interval := 5, fetch := fun _ => { delay := 9 } }
    let quick : Provider :=
      { name := "b", interval := 5
        fetch := fun _ => { outcome := .events [event "1", event "2", event "1"] } }
    let sink : Sink :=
      { name := "log", handle := fun n _ => { outcome := if n = 0 then .done else .failed } }
    let moves : List Move := [.subscribe, .consume sink 0, .start, .poll 1, .poll 2, .poll 0,
      .send true, .poll 0, .poll 1, .poll 2]
    let w := (World.new 2 none [slow, quick]).run moves
    let m' := m.observeAll w.log
    (m.active = true ∧ w.Finished) ∧
      w.summaries = [⟨"a", { cycles := 1 }, .cancelled⟩,
        ⟨"b", { cycles := 1, fetched := 3, published := 2, duplicates := 1 }, .cancelled⟩] ∧
      m'.measuredOf "a" + .ofCycles (w.abandonedBy "a") =
        m.measuredOf "a" + WorkerSummary.totalOf "a" w.summaries ∧
      m'.measuredOf "b" = { cycles := 1, fetched := 3, published := 2, duplicates := 1 } ∧
      m'.handledBy "log" = (1, 1) := by
  intro m event slow quick sink moves w m'
  have hm : m.active = true := by decide
  have hfinished : w.Finished := ⟨by unfold World.Alive; decide, by decide⟩
  obtain ⟨-, -, hall⟩ := metrics_match_summaries hm 2 none [slow, quick] moves
  exact ⟨⟨hm, hfinished⟩, by decide, (hall hfinished "a").1, by decide, by decide⟩

end World

end StatusRelay
