/-
# A crash is as good as nothing

What can be seen of two worlds that are `Twin` is the same, but for faults. A worker counts as faults
its fetches that crashed, and the record tells which they were; so their number differs by those that
were mended. All this holds after whatever is asked of both worlds.
-/

import StatusRelay.Proofs.World.Tally
import StatusRelay.Proofs.World.Twin

namespace StatusRelay
namespace World

open Occurrence (Entry)

namespace Twin

variable {replaced : Nat → Nat → Bool} {w w' : World} {i : Nat}

/-! ### What is seen -/

theorem allWorkers (h : Twin replaced w w') : List.Forall₂ Worker.Mends
    (w.tasks.filterMap Task.worker?) (w'.tasks.filterMap Task.worker?) := by
  refine List.rel_filterMap (fun t t' ht => ?_) h.tasks
  cases ht with
  | same =>
    cases t with
    | worker k => exact .some ⟨Worker.Peer.refl k, .same _⟩
    | consumer c => exact .none
    | publisher event stage => exact .none
  | worker hk => exact .some hk

theorem workers (h : Twin replaced w w') (run : Nat) :
    List.Forall₂ Worker.Mends (w.workers run) (w'.workers run) := by
  refine List.rel_filter (fun k k' hk => ?_) h.allWorkers
  obtain ⟨⟨s, f, rfl⟩, -⟩ := hk
  exact Iff.rfl

theorem fetchers (h : Twin replaced w w') : w'.fetchers = w.fetchers := by
  unfold World.fetchers
  rw [h.length_tasks]
  refine List.filter_congr fun j _ => ?_
  rcases forall₂_getElem? h.tasks j with ⟨ht, ht'⟩ | ⟨t, t', ht, ht', hmends⟩
  · rw [ht, ht']
  · rw [ht, ht']
    cases hmends with
    | same => rfl
    | worker hk =>
      rename_i k k'
      obtain ⟨⟨stage', f, rfl⟩, hs⟩ := hk
      rcases k with ⟨source, name, interval, run, stage, tally⟩
      cases hs with
      | same => cases stage' <;> rfl
      | fetching => rfl

theorem consumers (h : Twin replaced w w') : w'.consumers = w.consumers :=
  filterMap_eq_of_forall₂ (fun t t' ht => by cases ht <;> rfl) h.tasks

theorem fetching (h : Twin replaced w w') : w'.fetching = w.fetching := by
  unfold World.fetching
  refine filterMap_eq_of_forall₂ (fun k k' hk => ?_) h.allWorkers
  obtain ⟨⟨stage', f, rfl⟩, hs⟩ := hk
  rcases k with ⟨source, name, interval, run, stage, tally⟩
  cases hs with
  | same => rfl
  | fetching => rfl

theorem summaries (h : Twin replaced w w') (run : Nat) :
    (w'.workers run).map (·.summary.withoutFaults) =
      (w.workers run).map (·.summary.withoutFaults) := by
  rw [← List.filterMap_eq_map]
  exact filterMap_eq_of_forall₂ (fun k k' hk => congrArg some hk.summary) (h.workers run)

theorem result? (h : Twin replaced w w') (run : Nat) :
    (w'.result? run).map (List.map WorkerSummary.withoutFaults) =
      (w.result? run).map (List.map WorkerSummary.withoutFaults) := by
  have hworkers := h.workers run
  have hover : ((w'.workers run).all fun k => k.stage.isOver) =
      (w.workers run).all fun k => k.stage.isOver :=
    all_eq_of_forall₂ (fun k k' hk => hk.2.isOver) hworkers
  have hreports : ((w'.workers run).filterMap Worker.report?).map WorkerSummary.withoutFaults =
      ((w.workers run).filterMap Worker.report?).map WorkerSummary.withoutFaults := by
    rw [List.map_filterMap, List.map_filterMap]
    exact filterMap_eq_of_forall₂ (fun k k' hk => hk.report?) hworkers
  unfold World.result?
  simp only [hover]
  split
  · exact congrArg some hreports
  · rfl

theorem sourceOf (h : Twin replaced w w') : w'.sourceOf = w.sourceOf := by
  funext j
  unfold World.sourceOf
  rcases forall₂_getElem? h.tasks j with ⟨ht, ht'⟩ | ⟨t, t', ht, ht', hmends⟩
  · rw [ht, ht']
  · rw [ht, ht']
    cases hmends with
    | same => rfl
    | worker hk =>
      obtain ⟨⟨s, f, rfl⟩, -⟩ := hk
      rfl

/-- **Faults are the fetches that crashed,** and those of them are missing that were mended. -/
theorem faults {ps : List Provider} (h : Twin replaced w w') (hw : Recorded none w)
    (hw' : Recorded none w') (hn : Numbered ps w.sourceOf none w)
    (hn' : Numbered (mendAll replaced ps) w'.sourceOf none w') {k : Worker}
    (hk : w.tasks[i]? = some (.worker k)) : ∃ k', w'.tasks[i]? = some (.worker k') ∧
      k.tally.faults = k'.tally.faults + mendedOf replaced ps w i := by
  rcases forall₂_getElem? h.tasks i with ⟨hnone, -⟩ | ⟨t, t', ht, ht', hmends⟩
  · simp [hk] at hnone
  · obtain rfl := Option.some.inj (hk.symm.trans ht)
    have hcase : ∃ k', t' = .worker k' := by
      cases hmends with
      | same => exact ⟨k, rfl⟩
      | worker => exact ⟨_, rfl⟩
    obtain ⟨k', rfl⟩ := hcase
    rw [h.sourceOf] at hn'
    have hcompleted := completed_mendAll h.log (hn.ended i) (hn'.ended i)
    refine ⟨k', ht', ?_⟩
    rw [(hw.counted i _ (by simp) hk).1, (hw'.counted i _ (by simp) ht').1,
      WorkerTally.faults_told, WorkerTally.faults_told,
      countP_isFault ps w.sourceOf, countP_isFault (mendAll replaced ps) w.sourceOf, hcompleted]
    exact countP_mended _ _

end Twin

/-! ### Runs -/

/-- What is asked of a world: a move, or that it goes on by itself. -/
inductive Order where
  | move (m : Move)
  | settle
  | advance (ms : Nat)

/-- The world after an order. -/
def obey (w : World) : Order → World
  | .move m => w.act m
  | .settle => w.settle
  | .advance ms => w.advance ms

/-- The world after orders. -/
def follow (w : World) (orders : List Order) : World := orders.foldl obey w

theorem exists_moves_follow (w : World) (orders : List Order) :
    ∃ moves : List Move, w.follow orders = w.run moves := by
  induction orders generalizing w with
  | nil => exact ⟨[], rfl⟩
  | cons order orders ih =>
    have hone : ∃ moves : List Move, w.obey order = w.run moves := by
      cases order with
      | move m => exact ⟨[m], rfl⟩
      | settle =>
        obtain ⟨moves, -, h⟩ := Reaches.settle w
        exact ⟨moves, h.symm⟩
      | advance ms =>
        obtain ⟨moves, -, h⟩ := Reaches.advance w ms
        exact ⟨moves, h.symm⟩
    obtain ⟨moves, h⟩ := hone
    obtain ⟨more, hrest⟩ := ih (w.obey order)
    refine ⟨moves ++ more, ?_⟩
    rw [run_append, ← h, ← hrest]
    rfl

theorem Twin.follow {replaced : Nat → Nat → Bool} {w w' : World} (h : Twin replaced w w')
    (orders : List Order) : Twin replaced (w.follow orders) (w'.follow orders) := by
  induction orders generalizing w w' with
  | nil => exact h
  | cons order orders ih =>
    refine ih ?_
    cases order with
    | move m => exact h.act m
    | settle => exact h.settleAt _
    | advance ms => exact h.advance ms

/-- **A fetch that crashes is as good as one that comes with nothing.** Let any fetches that crash
be mended, and let the same be done to both worlds, whatever it is. Then

* the same time has passed, and the same tasks wait, for the same moments;
* the same fetches go on, of the same tasks, the same permits are free, and the same keys admitted;
* the bus has published the same events, and holds the same; the consumers have received the same;
* the workers of every run tell the same of themselves, before and at their end, but for faults;
* all that has happened is the same, at the same moments, but for the ends of mended fetches;
* and each worker has as many more faults as fetches of its own came to their end that crashed and
  were mended. -/
theorem mended_fetches_are_empty (limit : Nat) (capacity : Option Nat) (providers : List Provider)
    (replaced : Nat → Nat → Bool) (orders : List Order) :
    let w := (World.new limit capacity providers).follow orders
    let w' := (World.new limit capacity (mendAll replaced providers)).follow orders
    (w'.now = w.now ∧ w'.ready = w.ready ∧ w'.timers = w.timers) ∧
      (w'.fetching = w.fetching ∧ w'.fetchers = w.fetchers ∧ w'.permits = w.permits ∧
        w'.admission = w.admission) ∧
      (w'.bus = w.bus ∧ w'.consumers = w.consumers) ∧
      (∀ run, (w'.workers run).map (·.summary.withoutFaults) =
          (w.workers run).map (·.summary.withoutFaults) ∧
        (w'.result? run).map (List.map WorkerSummary.withoutFaults) =
          (w.result? run).map (List.map WorkerSummary.withoutFaults)) ∧
      List.Forall₂ Entry.Mends w.log w'.log ∧
      ∀ i k, w.tasks[i]? = some (.worker k) → ∃ k', w'.tasks[i]? = some (.worker k') ∧
        k.tally.faults = k'.tally.faults + mendedOf replaced providers w i := by
  intro w w'
  have h : Twin replaced w w' := (Twin.initial replaced limit capacity providers).follow orders
  have hrecorded : ∀ ps, Recorded none ((World.new limit capacity ps).follow orders) ∧
      Numbered ps ((World.new limit capacity ps).follow orders).sourceOf none
        ((World.new limit capacity ps).follow orders) := by
    intro ps
    obtain ⟨moves, hmoves⟩ := exists_moves_follow (World.new limit capacity ps) orders
    rw [hmoves]
    exact ⟨(Recorded.initial limit capacity ps).run moves, Numbered.run limit capacity ps moves⟩
  refine ⟨⟨h.now, h.ready, h.timers⟩, ⟨h.fetching, h.fetchers, h.permits, h.admission⟩,
    ⟨h.bus, h.consumers⟩, fun run => ⟨h.summaries run, h.result? run⟩, h.log, fun i k hk => ?_⟩
  exact h.faults (hrecorded providers).1 (hrecorded _).1 (hrecorded providers).2 (hrecorded _).2 hk

/-- Of two workers of one provider each crashes twice; the second and the third fetch are mended. -/
example :
    let provider : Provider :=
      { name := "a", interval := 10
        fetch := fun n => if n < 4 then { delay := 1, outcome := .crashed .withoutText } else {} }
    let w := (World.new 1 none [provider]).follow
      [.move .start, .move .start, .advance 30, .move (.send true), .settle]
    (w.tasks.map fun t => t.worker?.map (·.tally.faults)) = [some 2, some 2] ∧
      [0, 1].map (mendedOf (fun _ n => n == 1 || n == 2) [provider] w) = [1, 1] := by
  decide +kernel

end World
end StatusRelay
