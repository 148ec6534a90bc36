/-
# What a run returns

A run has one worker for each registered provider. Their tasks come to their ends in any order,
some of them by a crash, and are joined as they do. What the run returns does not depend on the
order: it is what the workers report that did not die, in the order of the providers.

| what is used | of |
| --- | --- |
| no two providers have one name | the registry |
| there is one worker for each place in the register | a start |
| a worker comes to its end once | the record, which leads nowhere from there |
| a list has one order by its places | sorting |
-/

import StatusRelay.Proofs.Startup
import StatusRelay.Proofs.World.Cycles

namespace StatusRelay

/-! ### Registration -/

namespace Registry

/-- The registry after providers have been offered one after another. One that is refused leaves it
as it was. -/
def enrol (providers : List Provider) : Registry Provider :=
  providers.foldl (fun r p =>
    match r.register p.name p with
    | .ok r => r
    | .error _ => r) .empty

variable (providers : List Provider)

/-- **A name that is taken is refused,** and any other comes to the end of the registry. -/
theorem enrol_concat (p : Provider) :
    (p.name ∈ (enrol providers).names →
      (enrol providers).register p.name p = .error (.duplicate p.name) ∧
        enrol (providers ++ [p]) = enrol providers) ∧
    (p.name ∉ (enrol providers).names →
      (enrol (providers ++ [p])).entries = (enrol providers).entries ++ [(p.name, p)]) := by
  have hstep : enrol (providers ++ [p]) =
      match (enrol providers).register p.name p with
      | .ok r => r
      | .error _ => enrol providers := List.foldl_append
  refine ⟨fun h => ?_, fun h => ?_⟩
  · have hrefused : (enrol providers).register p.name p = .error (.duplicate p.name) := dif_pos h
    refine ⟨hrefused, ?_⟩
    rw [hstep, hrefused]
  · obtain ⟨r, hr, hentries⟩ := register_of_notMem p h
    rw [hstep, hr]
    exact hentries

/-- Providers are registered under their own names. -/
theorem names_enrol : (enrol providers).entries.map (·.2.name) = (enrol providers).names := by
  induction providers using List.reverseRecOn with
  | nil => rfl
  | append_singleton providers p ih =>
    obtain ⟨htaken, hnew⟩ := enrol_concat providers p
    by_cases h : p.name ∈ (enrol providers).names
    · rw [(htaken h).2, ih]
    · unfold names at ih ⊢
      rw [hnew h, List.map_append, List.map_append, ih]
      rfl

end Registry

/-! ### Joining -/

namespace WorkerEnding

/-- **The order in which tasks are joined does not matter,** if their places are in order. -/
theorem gather_eq {ks : List Worker} (hsorted : (ks.map (·.source)).Pairwise (· < ·))
    (report : Worker → Option WorkerSummary) {order : List WorkerEnding}
    (h : order.Perm (ks.map fun k => ⟨k.source, report k⟩)) :
    gather order = ks.filterMap report := by
  let placed : List (Nat × WorkerSummary) :=
    ks.filterMap fun k => (report k).map fun s => (k.source, s)
  have hplaced : (order.filterMap fun e => e.report.map fun s => (e.index, s)).Perm placed := by
    have := h.filterMap fun e => e.report.map fun s => (e.index, s)
    rwa [List.filterMap_map] at this
  have hlt : placed.Pairwise fun a b => a.1 < b.1 := by
    refine List.Pairwise.filterMap (R := fun k k' : Worker => k.source < k'.source) _ ?_
      (List.pairwise_map.1 hsorted)
    intro k k' hk a ha b hb
    obtain ⟨s, -, rfl⟩ := Option.map_eq_some_iff.1 ha
    obtain ⟨s', -, rfl⟩ := Option.map_eq_some_iff.1 hb
    exact hk
  have hone : ∀ a ∈ placed, ∀ b ∈ placed, a.1 = b.1 → a = b := fun a ha b hb hab =>
    List.inj_on_of_nodup_map ((List.pairwise_map.2 hlt).imp Nat.ne_of_lt) ha hb hab
  have hsort : (order.filterMap fun e => e.report.map fun s => (e.index, s)).mergeSort
      (fun a b => a.1 ≤ b.1) = placed := by
    have hperm := (List.mergeSort_perm _ fun a b : Nat × WorkerSummary => a.1 ≤ b.1).trans hplaced
    have hsorted : ((order.filterMap fun e => e.report.map fun s => (e.index, s)).mergeSort
        fun a b => a.1 ≤ b.1).Pairwise fun a b => decide (a.1 ≤ b.1) = true := by
      refine List.pairwise_mergeSort (fun a b c hab hbc => ?_) (fun a b => ?_) _
      · exact decide_eq_true ((of_decide_eq_true hab).trans (of_decide_eq_true hbc))
      · simpa using Nat.le_total a.1 b.1
    refine List.Perm.eq_of_pairwise (fun a b ha hb hab hba => ?_) hsorted
      (hlt.imp fun hab => decide_eq_true (Nat.le_of_lt hab)) hperm
    exact hone a (hperm.mem_iff.1 ha) b hb
      (Nat.le_antisymm (of_decide_eq_true hab) (of_decide_eq_true hba))
  unfold gather
  rw [hsort, List.map_filterMap]
  refine List.filterMap_congr fun k _ => ?_
  rw [Option.map_map]
  exact Option.map_id'

end WorkerEnding

/-! ### Endings -/

/-- Whether a worker has come to its end. -/
def Station.isGone : Station → Bool
  | gone .. => true
  | _ => false

/-- **A worker comes to its end once,** and is led nowhere from there. -/
theorem Station.Path.countP_ended {s s' : Station} {log : List Occurrence.Entry}
    (h : Path s log s') (hs : s.isGone = false) :
    log.countP (·.what == .ended) = if s'.isGone then 1 else 0 := by
  induction h with
  | nil => rw [hs]; rfl
  | cons e _ hstep ih =>
    rw [List.countP_cons, ih]
    generalize e.what = what at hstep
    cases hstep <;> rfl

theorem Stage.isGone_station (stage : Stage) : stage.station.isGone = stage.isOver := by
  cases stage <;> rfl

namespace World

open Station (Path)

variable {w : World} {run i : Nat}

/-- The record of a worker tells of its end, once, if it has come to it. -/
theorem Reads.countP_ended {start : World} {moves : List Move} {log : List Occurrence.Entry}
    {stage : Stage} (h : Reads start moves i log stage) :
    log.countP (·.what == .ended) = if stage.isOver then 1 else 0 := by
  rcases h with hpath | ⟨rfl, lost, abandoned, hpath, -⟩
  · rw [hpath.countP_ended rfl, Stage.isGone_station]
  · exact hpath.countP_ended rfl

/-- What is taken from a list is taken from its places. -/
theorem filterMap_range {α β : Type} (l : List α) (f : α → Option β) :
    (List.range l.length).filterMap (fun i => l[i]?.bind f) = l.filterMap f := by
  induction l using List.reverseRecOn with
  | nil => rfl
  | append_singleton l a ih =>
    rw [List.length_append, List.length_singleton, List.range_succ, List.filterMap_append,
      List.filterMap_append, ← ih]
    congr 1
    · refine List.filterMap_congr fun i hi => ?_
      rw [List.getElem?_append_left (List.mem_range.1 hi)]
    · simp only [List.filterMap_cons, List.filterMap_nil, List.getElem?_concat_length,
        Option.bind_some]

theorem getElem?_of_member? {k : Worker} (h : w.member? run i = some k) :
    w.tasks[i]? = some (.worker k) := by
  obtain ⟨t, ht, hk⟩ := Option.bind_eq_some_iff.1 (Option.filter_eq_some_iff.1 h).1
  cases t with
  | worker k' => exact Option.some.inj hk ▸ ht
  | consumer c => simp [Task.worker?] at hk
  | publisher event stage => simp [Task.worker?] at hk

theorem workers_eq (w : World) (run : Nat) :
    w.workers run = (List.range w.tasks.length).filterMap (w.member? run) := by
  unfold workers
  rw [← filterMap_range, List.filter_filterMap]
  rfl

/-- The tasks that came to their ends, as they are recorded. -/
def endedTasks (w : World) : List Nat := (w.log.filter (·.what == .ended)).map (·.task)

/-- **The record tells of every end once.** -/
theorem count_endedTasks (limit : Nat) (capacity : Option Nat) (providers : List Provider)
    (moves : List Move) {k : Worker}
    (h : ((World.new limit capacity providers).run moves).tasks[i]? = some (.worker k)) :
    ((World.new limit capacity providers).run moves).endedTasks.count i =
      if k.stage.isOver then 1 else 0 := by
  rw [← (reads_run limit capacity providers moves i k.stage (stageAt_of_worker h)).countP_ended,
    endedTasks, List.count_eq_countP, List.countP_map, ofTask, List.countP_filter,
    List.countP_filter]
  exact List.countP_congr fun e _ => by rw [Bool.and_comm]; rfl

/-- **The tasks of a run that have come to their end** are those of the workers that have. -/
theorem endings_perm (limit : Nat) (capacity : Option Nat) (providers : List Provider)
    (moves : List Move) (run : Nat) :
    let w := (World.new limit capacity providers).run moves
    (w.endings run).Perm (((w.workers run).filter (·.stage.isOver)).map Worker.ending) := by
  intro w
  have hplaces : (w.endedTasks.filter fun i => (w.member? run i).isSome).Perm
      ((List.range w.tasks.length).filter fun i => (w.member? run i).any (·.stage.isOver)) := by
    refine List.perm_iff_count.2 fun i => ?_
    rcases h : w.member? run i with _ | k
    · rw [List.count_eq_zero.2 (by simp [h]), List.count_eq_zero.2 (by simp [h])]
    · have hk := getElem?_of_member? h
      have hi : i ∈ List.range w.tasks.length :=
        List.mem_range.2 (List.getElem?_eq_some_iff.1 hk).1
      rw [List.count_filter (by rw [h]; rfl), count_endedTasks limit capacity providers moves hk]
      rcases hover : k.stage.isOver with _ | _
      · exact (List.count_eq_zero.2 (by simp [h, hover])).symm
      · rw [List.count_filter (by rw [h]; exact hover),
          List.count_eq_one_of_mem List.nodup_range hi]
        rfl
  have htold : (w.endings run).Perm
      ((w.endedTasks.filter fun i => (w.member? run i).isSome).filterMap
        fun i => (w.member? run i).map Worker.ending) := by
    rw [List.filterMap_filter, endedTasks, List.filterMap_map]
    unfold endings
    rw [List.filter_reverse]
    refine ((List.reverse_perm _).filterMap _).trans (List.Perm.of_eq ?_)
    refine List.filterMap_congr fun e _ => ?_
    rw [Function.comp_apply]
    rcases w.member? run e.task <;> rfl
  refine htold.trans ((hplaces.filterMap _).trans (List.Perm.of_eq ?_))
  rw [workers_eq, List.filter_filterMap, List.map_filterMap, List.filterMap_filter]
  refine List.filterMap_congr fun i _ => ?_
  rcases w.member? run i with _ | k
  · rfl
  · rw [Option.any_some, Option.filter_some]
    split <;> rfl

/-! ### Who takes part in a run -/

theorem fresh_workers (w : World) (run : Nat) :
    (w.workers run).map Worker.fresh = (w.roster.filterMap Task.worker?).filter (·.run == run) := by
  have hfresh : w.roster.filterMap Task.worker? =
      (w.tasks.filterMap Task.worker?).map Worker.fresh := by
    unfold roster
    rw [List.filterMap_map, List.map_filterMap]
    exact List.filterMap_congr fun t _ => by cases t <;> rfl
  unfold workers
  rw [hfresh, List.filter_map]
  rfl

/-- The workers that a start adds are those of the providers that there were at first. -/
theorem recruits_run (limit : Nat) (capacity : Option Nat) (providers : List Provider)
    (moves : List Move) : ((World.new limit capacity providers).run moves).recruits =
      providers.zipIdx.map fun p =>
        .ofProvider ((World.new limit capacity providers).run moves).runs p.2 p.1 := by
  have hfresh : ∀ (ps : List Provider) (run : Nat), (ps.zipIdx.map fun p =>
      Worker.ofProvider run p.2 p.1) = (ps.map Provider.fresh).zipIdx.map fun p =>
        .ofProvider run p.2 p.1 := by
    intro ps run
    rw [List.zipIdx_map, List.map_map]
    rfl
  rw [recruits_eq_zipIdx, hfresh, sources_run, ← hfresh]
  rfl

/-- **A run that was started has a worker for each provider,** in their order. -/
theorem workers_run (limit : Nat) (capacity : Option Nat) (providers : List Provider)
    (moves : List Move) {run : Nat}
    (h : run < ((World.new limit capacity providers).run moves).runs) :
    (((World.new limit capacity providers).run moves).workers run).map Worker.fresh =
      providers.zipIdx.map fun p => .ofProvider run p.2 p.1 := by
  rw [fresh_workers]
  induction moves using List.reverseRecOn with
  | nil => exact absurd h (Nat.not_lt_zero _)
  | append_singleton moves m ih =>
    have hruns : ∀ k, Task.worker k ∈ ((World.new limit capacity providers).run moves).roster →
        k.run < ((World.new limit capacity providers).run moves).runs := by
      obtain ⟨more, hroster, -, hmore⟩ := roster_run (World.new limit capacity providers) moves
      intro k hk
      rw [hroster] at hk
      exact (hmore k hk).2
    have hrecruits := recruits_run limit capacity providers moves
    rw [run_concat] at h ⊢
    generalize (World.new limit capacity providers).run moves = w at h ih hruns hrecruits ⊢
    rw [roster_act, List.filterMap_append, List.filter_append]
    by_cases hold : run < w.runs
    · -- Who is new belongs to another run.
      rw [ih hold, List.filter_eq_nil_iff.2, List.append_nil]
      intro k hk heq
      have := (run_of_newcomer (mem_filterMap_worker?.1 hk)).1
      have := beq_iff_eq.1 heq
      omega
    · have hnew : m = .start ∧ run = w.runs := by
        rw [runs_act] at h
        cases m with
        | start => exact ⟨rfl, Nat.le_antisymm (Nat.le_of_lt_succ h) (Nat.le_of_not_lt hold)⟩
        | _ => exact absurd h hold
      obtain ⟨rfl, rfl⟩ := hnew
      rw [List.filter_eq_nil_iff.2, List.nil_append, newcomers, List.filterMap_map,
        show Task.worker? ∘ Task.worker = some from rfl, List.filterMap_some, hrecruits]
      · refine List.filter_eq_self.2 fun k hk => ?_
        obtain ⟨p, -, rfl⟩ := List.mem_map.1 hk
        exact beq_self_eq_true _
      · intro k hk heq
        have := hruns k (mem_filterMap_worker?.1 hk)
        have := beq_iff_eq.1 heq
        omega

/-- **A worker has its name and its interval from its provider.** -/
theorem provider_of_worker (limit : Nat) (capacity : Option Nat) (providers : List Provider)
    (moves : List Move) {k : Worker}
    (hk : ((World.new limit capacity providers).run moves).tasks[i]? = some (.worker k)) :
    ∃ p, providers[k.source]? = some p ∧ k.name = p.name ∧ k.interval = p.interval := by
  have hrun : k.run < ((World.new limit capacity providers).run moves).runs := by
    obtain ⟨more, hroster, -, hmore⟩ := roster_run (World.new limit capacity providers) moves
    have hmem := List.mem_of_getElem? (roster_of_getElem? hk)
    rw [hroster] at hmem
    exact (hmore k.fresh hmem).2
  have hmem : k.fresh ∈
      (((World.new limit capacity providers).run moves).workers k.run).map Worker.fresh :=
    List.mem_map_of_mem (List.mem_filter.2
      ⟨mem_filterMap_worker?.2 (List.mem_of_getElem? hk), beq_self_eq_true _⟩)
  rw [workers_run limit capacity providers moves hrun] at hmem
  obtain ⟨⟨p, source⟩, hp, hfresh⟩ := List.mem_map.1 hmem
  have hsource : source = k.source := congrArg Worker.source hfresh
  refine ⟨p, ?_, (congrArg Worker.name hfresh).symm, (congrArg Worker.interval hfresh).symm⟩
  rw [← hsource]
  exact List.mk_mem_zipIdx_iff_getElem?.1 hp

theorem names_workers_run (limit : Nat) (capacity : Option Nat) (providers : List Provider)
    (moves : List Move) {run : Nat}
    (h : run < ((World.new limit capacity providers).run moves).runs) :
    (((World.new limit capacity providers).run moves).workers run).map Worker.name =
      providers.map Provider.name := by
  have hmap := congrArg (List.map Worker.name) (workers_run limit capacity providers moves h)
  rw [List.map_map, List.map_map] at hmap
  refine Eq.trans hmap ?_
  rw [show (Worker.name ∘ fun p => Worker.ofProvider run p.2 p.1) = Provider.name ∘ Prod.fst
    from rfl, ← List.map_map, List.zipIdx_map_fst]

theorem sources_workers_run (limit : Nat) (capacity : Option Nat) (providers : List Provider)
    (moves : List Move) {run : Nat}
    (h : run < ((World.new limit capacity providers).run moves).runs) :
    (((World.new limit capacity providers).run moves).workers run).map Worker.source =
      List.range providers.length := by
  have hmap := congrArg (List.map Worker.source) (workers_run limit capacity providers moves h)
  rw [List.map_map, List.map_map] at hmap
  refine Eq.trans hmap ?_
  rw [show (Worker.source ∘ fun p => Worker.ofProvider run p.2 p.1) =
    (Prod.snd : Provider × Nat → Nat) from rfl, List.zipIdx_map_snd, List.range_eq_range']

end World

/-! ### Joining -/

/-- What the workers report that did not die. -/
theorem Worker.report?_of_isOver {k : Worker} (h : k.stage.isOver = true) :
    k.report? = if k.stage != .died then some k.summary else none := by
  unfold report?
  cases hstage : k.stage with
  | cancelled | died => rfl
  | _ => rw [hstage] at h; simp [Stage.isOver] at h

namespace World

variable {w : World} {run : Nat}

theorem filterMap_report? {ks : List Worker} (h : ks.all (·.stage.isOver) = true) :
    ks.filterMap Worker.report? = (ks.filter (·.stage != .died)).map Worker.summary := by
  rw [← List.filterMap_eq_map, List.filterMap_filter]
  exact List.filterMap_congr fun k hk => Worker.report?_of_isOver (List.all_eq_true.1 h k hk)

/-- What a run returns once all its workers have come to their ends. -/
theorem result?_eq (w : World) (run : Nat) :
    w.result? run = if (w.workers run).all (·.stage.isOver) then
      some ((w.workers run).filterMap Worker.report?) else none := rfl

section Endings

variable {order : List WorkerEnding}
  (hw : (w.endings run).Perm (((w.workers run).filter (·.stage.isOver)).map Worker.ending))
  (horder : order.Perm (w.endings run))

include hw horder

/-- There are as many ends to join as there are workers if all workers have come to theirs. -/
theorem length_endings_iff :
    order.length = (w.workers run).length ↔ (w.workers run).all (·.stage.isOver) = true := by
  rw [(horder.trans hw).length_eq, List.length_map, List.all_eq_true]
  exact List.length_filter_eq_length_iff

theorem endings_perm_of_all (hover : (w.workers run).all (·.stage.isOver) = true) :
    order.Perm ((w.workers run).map Worker.ending) := by
  have hall := horder.trans hw
  rwa [List.filter_eq_self.2 (List.all_eq_true.1 hover)] at hall

/-- **A run returns the same in whatever order its tasks are joined.** -/
theorem join?_eq_result? (hsorted : ((w.workers run).map Worker.source).Pairwise (· < ·)) :
    WorkerEnding.join? (w.workers run).length order = w.result? run := by
  rw [result?_eq]
  unfold WorkerEnding.join?
  by_cases hover : (w.workers run).all (·.stage.isOver) = true
  · rw [if_pos ((length_endings_iff hw horder).2 hover), if_pos hover]
    exact congrArg some
      (WorkerEnding.gather_eq hsorted _ (endings_perm_of_all hw horder hover))
  · rw [if_neg fun hlength => hover ((length_endings_iff hw horder).1 hlength), if_neg hover]

/-- Had more workers died, the others would report the same. -/
theorem gather_filter (hsorted : ((w.workers run).map Worker.source).Pairwise (· < ·))
    (hover : (w.workers run).all (·.stage.isOver) = true) (lives : WorkerSummary → Bool) :
    WorkerEnding.gather (order.map fun e => { e with report := e.report.filter lives }) =
      ((w.workers run).filterMap Worker.report?).filter lives := by
  rw [List.filter_filterMap]
  refine WorkerEnding.gather_eq hsorted (fun k => k.report?.filter lives) ?_
  have hmap := (endings_perm_of_all hw horder hover).map fun e : WorkerEnding =>
    { e with report := e.report.filter lives }
  rwa [List.map_map] at hmap

end Endings

end World

namespace Scheduler

open World (Move)

/-- **What a run returns.** Let providers be offered to a registry one after another, let a
scheduler be made for it, and let anything happen to its world.

* A provider whose name is taken is refused, which leaves the registry as it is; any other comes to
  its end.
* A run that was started has a worker for each provider, in their order. It returns when all of
  them have come to their end, in whatever order their tasks are joined, and then returns the
  summaries of those that did not die, in that order.
* The names in these are all different, and stand in the order of the registry. Had more workers
  died, their summaries would be missing, and the others would be the same. -/
theorem run_returns (offered : List Provider) (limit : Nat) (capacity : Option Nat) {s : Scheduler}
    (hs : Scheduler.new limit capacity (.enrol offered) = .ok s) (moves : List Move) :
    let registry := Registry.enrol offered
    let w := s.world.run moves
    (∀ p : Provider,
      (p.name ∈ registry.names → registry.register p.name p = .error (.duplicate p.name) ∧
        Registry.enrol (offered ++ [p]) = registry) ∧
      (p.name ∉ registry.names →
        (Registry.enrol (offered ++ [p])).entries = registry.entries ++ [(p.name, p)])) ∧
    ∀ run < w.runs,
      ((w.workers run).map Worker.name = registry.names ∧
        w.result? run = (if (w.workers run).all (·.stage.isOver) then
          some (((w.workers run).filter (·.stage != .died)).map Worker.summary) else none) ∧
        ∀ order : List WorkerEnding, order.Perm (w.endings run) →
          WorkerEnding.join? registry.size order = w.result? run) ∧
      ∀ summaries, w.result? run = some summaries →
        (summaries.map (·.provider)).Nodup ∧ (summaries.map (·.provider)).Sublist registry.names ∧
        ∀ order : List WorkerEnding, order.Perm (w.endings run) → ∀ dead : String → Bool,
          WorkerEnding.gather (order.map fun e =>
              { e with report := e.report.filter fun s => !dead s.provider }) =
            summaries.filter fun s => !dead s.provider := by
  intro registry w
  obtain rfl : Scheduler.mk limit (.new limit capacity (registry.entries.map (·.2))) = s := by
    unfold Scheduler.new at hs
    split at hs
    · simp at hs
    · exact Except.ok.inj hs
  refine ⟨Registry.enrol_concat offered, fun run hrun => ?_⟩
  have hnames : (w.workers run).map Worker.name = registry.names := by
    refine (World.names_workers_run limit capacity _ moves hrun).trans ?_
    rw [List.map_map]
    exact Registry.names_enrol offered
  have hsize : (w.workers run).length = registry.size := by
    rw [← List.length_map Worker.name, hnames]
    exact List.length_map _
  have hsorted : ((w.workers run).map Worker.source).Pairwise (· < ·) := by
    rw [World.sources_workers_run limit capacity _ moves hrun]
    exact List.pairwise_lt_range
  have hendings := World.endings_perm limit capacity (registry.entries.map (·.2)) moves run
  refine ⟨⟨hnames, ?_, fun order horder => ?_⟩, fun summaries hsummaries => ?_⟩
  · rw [World.result?_eq]
    split
    · rename_i hover
      rw [World.filterMap_report? hover]
    · rfl
  · rw [← hsize]
    exact World.join?_eq_result? hendings horder hsorted
  · rw [World.result?_eq] at hsummaries
    split at hsummaries
    · rename_i hover
      obtain rfl := Option.some.inj hsummaries
      have hsublist : (((w.workers run).filterMap Worker.report?).map (·.provider)).Sublist
          registry.names := by
        rw [World.filterMap_report? hover, List.map_map, ← hnames]
        exact List.filter_sublist.map Worker.name
      exact ⟨registry.nodup.sublist hsublist, hsublist, fun order horder dead =>
        World.gather_filter hendings horder hsorted hover fun s => !dead s.provider⟩
    · simp at hsummaries

/-- Four providers are offered, of which the third has the name of the first. The first fetch of the
second takes its worker down. After a stop the last worker comes to its end before the first. -/
theorem run_returns_of_death :
    let provider := fun (name : String) (outcome : FetchOutcome) =>
      ({ name := name, interval := 5, fetch := fun _ => ⟨1, outcome⟩ } : Provider)
    let offered := [provider "zeta" (.events []), provider "alpha" .deadly,
      provider "zeta" .deadly, provider "mu" (.events [])]
    let s : Scheduler := ⟨2, .new 2 none ((Registry.enrol offered).entries.map (·.2))⟩
    let w := s.world.run [.start, .poll 0, .poll 1, .poll 2, .fire 1, .poll 1, .poll 0, .poll 2,
      .send true, .poll 2, .poll 0]
    let endings : List WorkerEnding := [⟨1, none⟩, ⟨2, some ⟨"mu", { cycles := 1 }, .cancelled⟩⟩,
      ⟨0, some ⟨"zeta", { cycles := 1 }, .cancelled⟩⟩]
    Scheduler.new 2 none (.enrol offered) = .ok s ∧ w.endings 0 = endings ∧
      WorkerEnding.join? 3 endings =
        some [⟨"zeta", { cycles := 1 }, .cancelled⟩, ⟨"mu", { cycles := 1 }, .cancelled⟩] := by
  intro provider offered s w endings
  have hs : Scheduler.new 2 none (.enrol offered) = .ok s := rfl
  have hendings : w.endings 0 = endings := by decide
  obtain ⟨-, hall⟩ := run_returns offered 2 none hs [.start, .poll 0, .poll 1, .poll 2, .fire 1,
    .poll 1, .poll 0, .poll 2, .send true, .poll 2, .poll 0]
  obtain ⟨⟨-, -, hjoin⟩, -⟩ := hall 0 (by decide)
  refine ⟨hs, hendings, (hjoin endings (hendings ▸ List.Perm.refl _)).trans ?_⟩
  decide

end Scheduler
end StatusRelay
