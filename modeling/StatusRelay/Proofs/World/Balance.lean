/-
# The counts of workers and the shared stores

A worker counts at different points of its cycle, which can be cut at every wait. At each station
it is known by how much the counts are apart:

| counts | apart by |
| --- | --- |
| cycles, and fetches that came to their end | a fetch that goes on or was abandoned |
| events that fetches returned, and events fetched | those that have not been filtered |
| events that were new, and events published | those that are held or were given up |

The store admits what is new, and the bus counts what is published, so over all workers together
the counts are those of the store and of the bus.
-/

import StatusRelay.Proofs.World.Cycles

namespace StatusRelay

namespace FetchOutcome

/-- The events that a fetch returned, if it did not crash. -/
def returned? : FetchOutcome → Option (List Event)
  | events es => some es
  | _ => none

/-- A fetch that came to its end returned or crashed. -/
theorem length_returned (os : List FetchOutcome) :
    (os.filterMap returned?).length + os.countP isFault = os.length := by
  induction os with
  | nil => rfl
  | cons o os ih =>
    rw [List.filterMap_cons, List.countP_cons, List.length_cons, ← ih]
    cases o <;> simp only [returned?, isFault, if_true, List.length_cons] <;> grind

/-- Nothing is found but in what was returned. -/
theorem sum_returned (os : List FetchOutcome) :
    ((os.filterMap returned?).map List.length).sum = (os.map fun o => o.found.length).sum := by
  induction os with
  | nil => rfl
  | cons o os ih =>
    rw [List.filterMap_cons, List.map_cons, List.sum_cons, ← ih]
    cases o <;> simp [returned?, found]

end FetchOutcome

namespace Station

/-- How many fetches of the worker go on or were abandoned. -/
def unfinished : Station → Nat
  | fetching | leaving => 1
  | gone _ abandoned => if abandoned then 1 else 0
  | _ => 0

/-- The events of a fetch that have not been filtered. -/
def unsifted : Station → List Event
  | fetched outcome => outcome.found
  | _ => []

/-- The events that were new and have not been counted as published. -/
def unpublished : Station → List Event
  | holding pending => pending
  | sending event rest => event :: rest
  | gone lost _ => lost
  | _ => []

end Station

namespace World

open Occurrence (Entry fresh)
open Station (Path Step)

variable {log : List Entry} {s : Station}

theorem told_cons (e : Entry) (log : List Entry) :
    WorkerTally.told (e :: log) = (WorkerTally.told log).add e.what := rfl

/-! ### What a record tells at a station -/

section Counts

variable {s' : Station} {what : Occurrence}

/-- A cycle begins with a fetch, which then goes on until it comes to its end or is abandoned. -/
theorem cycles_of_step (h : Step s what s') (t : WorkerTally) :
    (t.add what).cycles + s.unfinished =
      t.cycles + what.outcome?.toList.length + s'.unfinished := by
  cases h <;> simp [WorkerTally.add, Occurrence.outcome?, Station.unfinished]
  split <;> rfl

/-- The events of a fetch are counted when they are filtered. -/
theorem fetched_of_step (h : Step s what s') (t : WorkerTally) :
    (t.add what).fetched + s'.unsifted.length =
      t.fetched + (what.outcome?.toList.map fun o => o.found.length).sum + s.unsifted.length := by
  cases h <;> simp_all [WorkerTally.add, Occurrence.outcome?, Station.unsifted,
    FetchOutcome.found]
  split <;> rfl

/-- An event that is new is held until it is published, or given up. -/
theorem published_of_step (h : Step s what s') (t : WorkerTally) :
    (t.add what).fetched + (t.duplicates + t.published + s.unpublished.length) =
      t.fetched + ((t.add what).duplicates + (t.add what).published + s'.unpublished.length) := by
  cases h <;> simp [WorkerTally.add, Station.unpublished] <;> grind

end Counts

/-- **Every cycle** is a fetch that came to its end, or one that goes on or was abandoned. -/
theorem cycles_of_path (h : Path (.holding []) log s) :
    (WorkerTally.told log).cycles = (outcomes log).length + s.unfinished := by
  induction h with
  | nil => rfl
  | @cons log _ _ e _ hstep ih =>
    have hnext := cycles_of_step hstep (.told log)
    rw [told_cons, outcomes_cons, List.length_append]
    omega

/-- **Every event that a fetch returned** has been counted, but for those not filtered. -/
theorem fetched_of_path (h : Path (.holding []) log s) :
    ((outcomes log).map fun o => o.found.length).sum =
      (WorkerTally.told log).fetched + s.unsifted.length := by
  induction h with
  | nil => rfl
  | @cons log _ _ e _ hstep ih =>
    have hnext := fetched_of_step hstep (.told log)
    rw [told_cons, outcomes_cons, List.map_append, List.sum_append]
    omega

/-- **Every event that was fetched** is a duplicate, or published, or held, or was given up. -/
theorem published_of_path (h : Path (.holding []) log s) : (WorkerTally.told log).fetched =
    (WorkerTally.told log).duplicates + (WorkerTally.told log).published +
      s.unpublished.length := by
  induction h with
  | nil => rfl
  | @cons log _ _ e _ hstep ih =>
    have hnext := published_of_step hstep (.told log)
    rw [told_cons]
    omega

/-- The events that were new are those that are no duplicates. -/
theorem fetched_told (log : List Entry) : (WorkerTally.told log).fetched =
    (eventsIn fresh log).length + (WorkerTally.told log).duplicates := by
  induction log with
  | nil => rfl
  | cons e log ih =>
    rw [told_cons, eventsIn_cons, List.length_append]
    cases e.what with
    | filtered name es duplicates =>
      simp only [WorkerTally.add, fresh]
      omega
    | fetchEnded name elapsed outcome =>
      simp only [WorkerTally.add, fresh, List.length_nil]
      split <;> exact ih
    | _ => exact ih

/-! ### The stages -/

theorem unfinished_station (stage : Stage) :
    stage.station.unfinished = if stage.isFetching then 1 else 0 := by
  cases stage <;> rfl

theorem unsifted_station (stage : Stage) : stage.station.unsifted = [] := by
  cases stage <;> rfl

theorem unpublished_station (stage : Stage) : stage.station.unpublished = stage.held := by
  cases stage <;> rfl

/-- **The counts of a worker,** given what it gave up when it was stopped. -/
theorem Reads.counts {start : World} {moves : List Move} {i : Nat} {stage : Stage}
    (h : Reads start moves i log stage) : ∃ lost abandoned,
      (WorkerTally.told log).cycles = (outcomes log).length +
        ((if stage.isFetching then 1 else 0) + if abandoned then 1 else 0) ∧
      ((if stage.isFetching then 1 else 0) + if abandoned then 1 else 0) ≤ 1 ∧
      ((outcomes log).map fun o => o.found.length).sum = (WorkerTally.told log).fetched ∧
      (WorkerTally.told log).fetched = (WorkerTally.told log).duplicates +
        ((WorkerTally.told log).published + stage.held.length + lost.length) ∧
      ((lost ≠ [] ∨ abandoned = true) →
        stage = .cancelled ∧ StoppedWith start moves i lost abandoned) := by
  rcases h with hpath | ⟨rfl, lost, abandoned, hpath, hstopped⟩
  · refine ⟨[], false, ?_, ?_, ?_, ?_, by simp⟩
    · rw [cycles_of_path hpath, unfinished_station]
      rfl
    · split <;> decide
    · rw [fetched_of_path hpath, unsifted_station]
      rfl
    · rw [published_of_path hpath, unpublished_station, Nat.add_assoc]
      rfl
  · refine ⟨lost, abandoned, ?_, ?_, ?_, ?_, fun _ => ⟨rfl, hstopped⟩⟩
    · rw [cycles_of_path hpath]
      simp [Station.unfinished, Stage.isFetching]
    · cases abandoned <;> decide
    · rw [fetched_of_path hpath]
      rfl
    · rw [published_of_path hpath, Nat.add_assoc]
      rfl

end World

/-! ### All workers together -/

/-- How many events a worker has found to be new. -/
def Task.admitted : Task → Nat
  | worker k => k.tally.fetched - k.tally.duplicates
  | _ => 0

namespace World

/-- A sum over tasks is one over workers if no other task adds to it. -/
theorem sum_workers (f : Task → Nat) (hconsumer : ∀ c, f (.consumer c) = 0)
    (hpublisher : ∀ event stage, f (.publisher event stage) = 0) (ts : List Task) :
    (ts.map f).sum = ((ts.filterMap Task.worker?).map fun k => f (.worker k)).sum := by
  induction ts with
  | nil => rfl
  | cons t ts ih =>
    rw [List.map_cons, List.sum_cons, ih]
    cases t with
    | worker k => rfl
    | consumer c => rw [hconsumer, Nat.zero_add]; rfl
    | publisher event stage => rw [hpublisher, Nat.zero_add]; rfl

/-- **The store holds what workers have found to be new,** if nobody else uses it. -/
theorem Recorded.size_admission {w : World} {lost : Nat → List Event} (h : Recorded none w)
    (hb : Balanced lost w) : (w.tasks.map Task.admitted).sum = w.admission.size := by
  have hstored := congrArg List.length hb.ledger.stored
  rw [List.length_reverse, List.length_map] at hstored
  rw [Admission.size, hstored]
  refine (h.length_eventsIn fun j t ht => ?_).symm
  have hcounted := h.counted j t (by simp) ht
  rcases t with k | c | ⟨event, stage⟩
  · have htold := fetched_told (ofTask j w.log)
    rw [← hcounted.1] at htold
    simp only [Task.admitted]
    omega
  · have hs : w.stageAt j = none := stageAt_of_other fun t' ht' => by
      rw [← Option.some.inj (ht.symm.trans ht')]
      rfl
    have hlost : lost j = [] := by
      by_contra hne
      have hc := hb.stopped j hne
      simp [hs] at hc
    rw [hb.ledger.split j, hcounted.2.1, heldBy_of_none hs, hlost]
    rfl
  · exact absurd ht (hb.ours j event stage)

/-- **The counts of workers balance with the store and the bus** at every moment, if nobody else
uses these.

* A cycle is a fetch that came to its end, by a crash or not, or one fetch that goes on or was
  abandoned.
* The events fetched are those that its fetches returned, which are what the provider says.
* Some of them are duplicates. The others are published, but for those that the worker has yet to
  publish and those that it gave up.
* It has given up events, or a fetch, only if it was polled after a stop while it had them.
* Over all workers, the events that are no duplicates are as many as the keys in the store, and
  those published are as many as the bus has published. -/
theorem counts_balance (limit : Nat) (capacity : Option Nat) (providers : List Provider)
    {moves : List Move} (hours : ∀ m ∈ moves, m.isForeign = false) :
    let start := World.new limit capacity providers
    let w := start.run moves
    let workers := w.tasks.filterMap Task.worker?
    (∀ i k, w.tasks[i]? = some (.worker k) →
      let fetches := completed providers w.sourceOf i w.log
      let lists := fetches.filterMap (·.2.returned?)
      (∀ f ∈ fetches, f.2 = outcomeOf providers k.source f.1) ∧
      k.tally.faults = fetches.countP (·.2.isFault) ∧
      k.tally.fetched = (lists.map List.length).sum ∧
      k.tally.duplicates ≤ k.tally.fetched ∧
      ∃ lost abandoned,
        k.tally.cycles = lists.length + k.tally.faults +
          ((if k.stage.isFetching then 1 else 0) + if abandoned then 1 else 0) ∧
        ((if k.stage.isFetching then 1 else 0) + if abandoned then 1 else 0) ≤ 1 ∧
        k.tally.fetched - k.tally.duplicates =
          k.tally.published + k.stage.held.length + lost.length ∧
        ((lost ≠ [] ∨ abandoned = true) →
          k.stage = .cancelled ∧ StoppedWith start moves i lost abandoned)) ∧
    (workers.map fun k => k.tally.fetched - k.tally.duplicates).sum = w.admission.size ∧
    (workers.map fun k => k.tally.published).sum = w.bus.stats.published := by
  intro start w workers
  have hr : Recorded none w := (Recorded.initial limit capacity providers).run moves
  obtain ⟨lost, hb, -⟩ := (Balanced.initial limit capacity providers).run hours
  refine ⟨fun i k hk => ?_, ?_, ?_⟩
  · intro fetches lists
    have htally : k.tally = .told (ofTask i w.log) := (hr.counted i _ (by simp) hk).1
    have houtcomes : outcomes (ofTask i w.log) = fetches.map (·.2) :=
      outcomes_ofTask providers w.sourceOf i w.log
    have hlists : lists = (fetches.map (·.2)).filterMap FetchOutcome.returned? := by
      rw [List.filterMap_map]
      rfl
    have hfaults : k.tally.faults = fetches.countP (·.2.isFault) := by
      rw [htally, WorkerTally.faults_told, countP_isFault providers w.sourceOf]
    have hended := FetchOutcome.length_returned (fetches.map (·.2))
    rw [List.countP_map, ← hlists, ← houtcomes] at hended
    replace hended : lists.length + k.tally.faults = (outcomes (ofTask i w.log)).length :=
      hfaults ▸ hended
    obtain ⟨lost, abandoned, hcycles, hone, hfetched, hrest, hgiven⟩ :=
      (reads_run limit capacity providers moves i k.stage (stageAt_of_worker hk)).counts
    rw [← htally] at hcycles hfetched hrest
    refine ⟨?_, hfaults, ?_, by omega, lost, abandoned, ?_, hone, by omega, hgiven⟩
    · intro f hf
      rw [← sourceOf_eq hk]
      exact (Numbered.run limit capacity providers moves).ended i f hf
    · rw [hlists, FetchOutcome.sum_returned, ← houtcomes, hfetched]
    · rw [hcycles, hended]
  · rw [← hr.size_admission hb, sum_workers Task.admitted (fun _ => rfl) fun _ _ => rfl]
    rfl
  · rw [hb.ledger.counted, hr.length_sent hb.ours,
      sum_workers Task.published (fun _ => rfl) fun _ _ => rfl]
    rfl

/-- One worker is stopped while it fetches. Another has fetched three events, two of them with one
key, and is stopped while it waits with the second for room. -/
theorem counts_balance_of_stop :
    let event := fun id : String => (⟨id, "b", "", "", default⟩ : Event)
    let slow : Provider := { name := "a", interval := 5, fetch := fun _ => { delay := 9 } }
    let quick : Provider :=
      { name := "b", interval := 5
        fetch := fun _ => { outcome := .events [event "1", event "2", event "1"] } }
    let moves : List Move :=
      [.subscribe, .start, .poll 0, .poll 1, .send true, .poll 0, .poll 1]
    let w := (World.new 2 (some 1) [slow, quick]).run moves
    let workers := w.tasks.filterMap Task.worker?
    (∀ m ∈ moves, m.isForeign = false) ∧
      workers.map (fun k => (k.stage, k.tally)) = [(.cancelled, { cycles := 1 }),
        (.cancelled, { cycles := 1, fetched := 3, published := 1, duplicates := 1 })] ∧
      (workers.map fun k => k.tally.fetched - k.tally.duplicates).sum = w.admission.size ∧
      (workers.map fun k => k.tally.published).sum = w.bus.stats.published := by
  intro event slow quick moves
  have hours : ∀ m ∈ moves, m.isForeign = false := by decide
  obtain ⟨-, hsize, hpublished⟩ := counts_balance 2 (some 1) [slow, quick] hours
  exact ⟨hours, by decide, hsize, hpublished⟩

end World
end StatusRelay
