/-
# Who takes part

Tasks are added at the end and stay in their places. What becomes of a task in a poll is its stage
and its tally; what it was made for stays. So the roster, which holds every task as it was when it
was new, only grows, and only where tasks are added:

| move | newcomers |
| --- | --- |
| `start` | a worker for each provider, of a run with a new number |
| `consume` | a consumer |
| `post` | a publisher |
| any other | none |
-/

import StatusRelay.Proofs.World.Moves
import Mathlib.Data.List.Basic

namespace StatusRelay

namespace Worker

/-- A worker as it was when it was new. -/
def fresh (k : Worker) : Worker := { k with stage := .ready, tally := {} }

end Worker

namespace Consumer

/-- A consumer as it was when it was new. -/
def fresh (c : Consumer) : Consumer := { c with stage := .receiving, tally := {} }

end Consumer

namespace Task

/-- A task as it was when it was new. -/
def fresh : Task → Task
  | worker k => worker k.fresh
  | consumer c => consumer c.fresh
  | publisher event _ => publisher event .new

end Task

namespace Provider

/-- A provider that has not been asked. -/
def fresh (p : Provider) : Provider := { p with calls := 0 }

end Provider

namespace World

/-- Every task as it was when it was new. -/
def roster (w : World) : List Task := w.tasks.map Task.fresh

/-- The workers that a start adds. -/
def recruits (w : World) : List Worker :=
  ((List.range w.providers.length).zip w.providers).map fun s => .ofProvider w.runs s.1 s.2

/-- The tasks that a move adds. -/
def newcomers (w : World) : Move → List Task
  | .start => w.recruits.map .worker
  | .consume sink queue => [.consumer { sink := sink, queue := queue, started := w.now }]
  | .post event => [.publisher event .new]
  | _ => []

variable {w w' : World} {i : Nat}

theorem roster_of_getElem? {t : Task} (h : w.tasks[i]? = some t) :
    w.roster[i]? = some t.fresh := by
  unfold roster
  rw [List.getElem?_map, h]
  rfl

theorem getElem?_of_roster {t : Task} (h : w.roster[i]? = some t) :
    ∃ t', w.tasks[i]? = some t' ∧ t'.fresh = t := by
  unfold roster at h
  rw [List.getElem?_map] at h
  exact Option.map_eq_some_iff.1 h

/-- What no poll changes. -/
structure Setting where
  roster : List Task
  /-- The providers, as if they had not been asked. -/
  sources : List Provider
  now : Nat
  signal : Signal
  runs : Nat

/-- The setting of a world. -/
def setting (w : World) : Setting :=
  ⟨w.roster, w.providers.map Provider.fresh, w.now, w.signal, w.runs⟩

variable {all : Setting}

/-- What a task was made for stays. -/
theorem setting_put {t : Task} (h : all.roster[i]? = some t.fresh) (hw : w.setting = all) :
    (w.put i t).setting = all := by
  subst hw
  replace h : (w.tasks.map Task.fresh)[i]? = some t.fresh := h
  have hroster : (w.put i t).roster = w.roster := by
    unfold put roster
    obtain ⟨hi, h⟩ := List.getElem?_eq_some_iff.1 h
    rw [List.map_set, ← h, List.set_getElem_self]
  exact congrArg (fun r => Setting.mk r _ _ _ _) hroster

/-- What a provider is stays. -/
theorem setting_ask (hw : w.setting = all) {source : Nat} {p : Provider}
    (hp : w.providers[source]? = some p) :
    ({ w with providers := w.providers.set source { p with calls := p.calls + 1 } }).setting
      = all := by
  subst hw
  have hsources : (w.providers.set source { p with calls := p.calls + 1 }).map Provider.fresh =
      w.providers.map Provider.fresh := by
    obtain ⟨hs, rfl⟩ := List.getElem?_eq_some_iff.1 hp
    have hs' : source < (w.providers.map Provider.fresh).length := by simpa using hs
    have hself := List.set_getElem_self hs'
    rw [List.getElem_map] at hself
    rw [List.map_set]
    exact hself
  exact congrArg (fun ps => Setting.mk _ ps _ _ _) hsources

theorem setting_withBus (hw : w.setting = all) (bus : Bus) (parties : List Wake) :
    (w.withBus bus parties).setting = all := by
  obtain ⟨more, h⟩ := withBus_eq w bus parties
  rw [h]
  exact hw

theorem setting_withPermits (hw : w.setting = all) (permits : Permits) (given : Option Nat) :
    (w.withPermits permits given).setting = all := by
  obtain ⟨more, h⟩ := withPermits_eq w permits given
  rw [h]
  exact hw

theorem setting_setTimer (task due : Nat) (hw : w.setting = all) :
    (w.setTimer task due).setting = all := by
  obtain ⟨more, timers, h⟩ := setTimer_eq w task due
  rw [h]
  exact hw

theorem setting_drive (hw : w.setting = all) (event : Event) :
    (w.drive i event).1.setting = all := by
  unfold drive
  split
  · split
    · exact setting_withBus hw _ _
    · exact setting_withBus hw _ _
  · exact hw

/-! ### Workers -/

section Workers

variable {k : Worker}

theorem setting_endWorker (stage : Stage) (h : all.roster[i]? = some (.worker k.fresh))
    (hw : w.setting = all) : (w.endWorker i k stage).setting = all :=
  setting_put (t := .worker { k with stage := stage }) h hw

theorem setting_sleep (h : all.roster[i]? = some (.worker k.fresh)) (hw : w.setting = all) :
    (w.sleep i k).setting = all :=
  setting_setTimer _ _
    (setting_put (t := .worker { k with stage := .sleeping (w.now + k.interval) }) h hw)

theorem setting_publish (pending : List Event) (h : all.roster[i]? = some (.worker k.fresh))
    (hw : w.setting = all) : (w.publish i k pending).setting = all := by
  induction pending generalizing w k with
  | nil => exact setting_sleep h hw
  | cons e es ih =>
    have hd := setting_drive (i := i) hw e
    unfold publish
    split
    · rename_i w' hdrive
      rw [hdrive] at hd
      exact setting_put (t := .worker { k with stage := .publishing (e :: es) }) h hd
    · rename_i w' count hdrive
      rw [hdrive] at hd
      simp only
      split
      · exact setting_sleep h hd
      · exact ih h hd

theorem setting_sift (found : List Event) (h : all.roster[i]? = some (.worker k.fresh))
    (hw : w.setting = all) : (w.sift i k found).setting = all := by
  unfold sift
  simp only
  split
  · exact setting_sleep h hw
  · exact setting_publish _ h hw

theorem setting_finishFetch (since : Nat) (outcome : FetchOutcome)
    (h : all.roster[i]? = some (.worker k.fresh)) (hw : w.setting = all) :
    (w.finishFetch i k since outcome).setting = all := by
  have hr := setting_withPermits hw w.permits.release.1 w.permits.release.2
  unfold finishFetch
  cases outcome with simp only
  | events es => exact setting_sift es h hr
  | crashed crash => exact setting_sift [] h hr
  | deadly => exact setting_endWorker .died h hr

theorem setting_beginFetch (h : all.roster[i]? = some (.worker k.fresh)) (hw : w.setting = all) :
    (w.beginFetch i k).setting = all := by
  unfold beginFetch
  simp only
  split
  · exact setting_finishFetch _ _ h hw
  · rename_i hp
    have hask := setting_ask (w := w.note i .fetchBegan) hw hp
    split
    · exact setting_finishFetch _ _ h hask
    · exact setting_setTimer _ _ (setting_put h hask)

theorem setting_askPermit (h : all.roster[i]? = some (.worker k.fresh)) (hw : w.setting = all) :
    (w.askPermit i k).setting = all := by
  unfold askPermit
  simp only
  split
  · exact setting_endWorker _ h hw
  · split
    · exact setting_beginFetch h hw
    · exact setting_put h hw

theorem setting_stopWorker (h : all.roster[i]? = some (.worker k.fresh)) (hw : w.setting = all) :
    (w.stopWorker i k).setting = all := by
  refine setting_endWorker .cancelled h ?_
  cases k.stage with
  | queued => exact setting_withPermits hw _ _
  | fetching since due outcome => exact setting_withPermits hw _ _
  | publishing pending => exact setting_withBus hw _ _
  | ready => exact hw
  | sleeping due => exact hw
  | cancelled => exact hw
  | died => exact hw

theorem setting_pollWorker (h : all.roster[i]? = some (.worker k.fresh)) (hw : w.setting = all) :
    (w.pollWorker i k).setting = all := by
  unfold pollWorker
  split
  · exact setting_stopWorker h hw
  · cases k.stage with
    | ready => exact setting_askPermit h hw
    | queued =>
      simp only
      split
      · exact setting_endWorker _ h hw
      · split
        · exact setting_beginFetch h hw
        · exact hw
    | fetching since due outcome =>
      simp only
      split
      · exact setting_finishFetch since outcome h hw
      · exact hw
    | publishing pending => exact setting_publish pending h hw
    | sleeping due =>
      simp only
      split
      · exact setting_askPermit h hw
      · exact hw
    | cancelled => exact hw
    | died => exact hw

end Workers

/-! ### Consumers and publishers -/

section Consumers

variable {c : Consumer}

theorem setting_endConsumer (stage : ConsumerStage) (h : all.roster[i]? = some (.consumer c.fresh))
    (hw : w.setting = all) : (w.endConsumer i c stage).setting = all :=
  setting_withBus (setting_put (t := .consumer { c with stage := stage }) h hw) _ _

theorem setting_receive (most : Nat) (h : all.roster[i]? = some (.consumer c.fresh))
    (hw : w.setting = all) : (w.receive i c most).setting = all := by
  induction most generalizing w c with
  | zero => exact setting_put h hw
  | succ most ih =>
    unfold receive
    split
    · exact setting_put h hw
    · exact setting_endConsumer _ h hw
    · rename_i e bus parties _
      have hr := setting_withBus hw bus parties
      simp only
      split
      · split
        · exact setting_endConsumer _ h hr
        · exact ih h hr
      · exact setting_setTimer _ _ (setting_put h hr)

theorem setting_pollConsumer (h : all.roster[i]? = some (.consumer c.fresh))
    (hw : w.setting = all) : (w.pollConsumer i c).setting = all := by
  unfold pollConsumer
  split
  · exact setting_endConsumer _ h hw
  · split
    · exact setting_receive _ h hw
    · split
      · simp only
        split
        · exact setting_endConsumer _ h hw
        · exact setting_receive _ h hw
      · exact hw
    · exact hw
    · exact hw

theorem setting_pollPublisher {event : Event} (stage : PublisherStage)
    (h : all.roster[i]? = some (.publisher event .new)) (hw : w.setting = all) :
    (w.pollPublisher i event stage).setting = all := by
  have hgo : ∀ w : World, w.setting = all → (pollPublisher.go i event w).setting = all := by
    intro w hw
    have hd := setting_drive (i := i) hw event
    unfold pollPublisher.go
    split
    · rename_i hdrive
      rw [hdrive] at hd
      exact setting_put (t := .publisher event .over) h hd
    · rename_i hdrive
      rw [hdrive] at hd
      exact setting_put (t := .publisher event .waiting) h hd
  cases stage with
  | new => exact hgo _ hw
  | waiting => exact hgo w hw
  | _ => exact hw

end Consumers

/-- **A poll leaves the setting as it is.** -/
theorem setting_poll (w : World) (i : Nat) : (w.poll i).setting = w.setting := by
  unfold poll
  rcases ht : w.tasks[i]? with _ | t
  · rfl
  · have h := roster_of_getElem? ht
    simp only
    split
    · rfl
    · cases t with
      | worker k => exact setting_pollWorker h rfl
      | consumer c => exact setting_pollConsumer h rfl
      | publisher event stage => exact setting_pollPublisher stage h rfl

/-! ### Moves -/

theorem spawn_foldl_eq (w : World) (ts : List Task) : ∃ more, ts.foldl spawn w =
    { w with tasks := w.tasks ++ ts, ready := w.ready ++ more } ∧
      ∀ j, w.tasks.length ≤ j → j < w.tasks.length + ts.length → j ∈ w.ready ++ more := by
  induction ts generalizing w with
  | nil => exact ⟨[], by simp, fun j hj hlt => by simp at hlt; omega⟩
  | cons t ts ih =>
    obtain ⟨more, hw, hmem⟩ := spawn_eq w t
    obtain ⟨more', hw', hmem'⟩ := ih (w.spawn t)
    rw [hw] at hw' hmem'
    refine ⟨more ++ more', ?_, fun j hj hlt => ?_⟩
    · rw [List.foldl_cons, hw, hw']
      simp [List.append_assoc]
    · rw [← List.append_assoc]
      rw [List.length_cons] at hlt
      by_cases heq : j = w.tasks.length
      · exact List.mem_append_left _ (heq ▸ hmem)
      · refine hmem' j ?_ ?_
        · simp
          omega
        · simp
          omega

/-- **A start adds a worker for each provider,** all of them to be polled. -/
theorem start_eq (w : World) : ∃ more, w.start = { w with
      runs := w.runs + 1
      tasks := w.tasks ++ w.recruits.map .worker
      ready := w.ready ++ more } ∧
    ∀ j, w.tasks.length ≤ j → j < w.tasks.length + w.recruits.length → j ∈ w.ready ++ more := by
  obtain ⟨more, hw, hmem⟩ := spawn_foldl_eq { w with runs := w.runs + 1 } (w.recruits.map .worker)
  refine ⟨more, ?_, ?_⟩
  · rw [← hw]
    unfold start recruits
    rw [List.map_map]
    rfl
  · rw [List.length_map] at hmem
    exact hmem

theorem fresh_of_mem_recruits {k : Worker} (h : k ∈ w.recruits) : k.fresh = k := by
  obtain ⟨s, -, rfl⟩ := List.mem_map.1 h
  rfl

/-- Who is added is new. -/
theorem fresh_of_mem_newcomers {m : Move} {t : Task} (h : t ∈ w.newcomers m) : t.fresh = t := by
  cases m with
  | start =>
    obtain ⟨k, hk, rfl⟩ := List.mem_map.1 h
    exact congrArg Task.worker (fresh_of_mem_recruits hk)
  | consume sink queue =>
    obtain rfl := List.mem_singleton.1 h
    rfl
  | post event =>
    obtain rfl := List.mem_singleton.1 h
    rfl
  | _ => simp [newcomers] at h

/-- How the signal is after a move. -/
def Move.gives (m : Move) (s : Signal) : Signal :=
  match m with
  | send value => { s with value := value }
  | dropSignal => { s with isHeld := false }
  | _ => s

/-- The keys that a move offers to the store from outside. -/
def Move.offered : Move → List Key
  | offer key => [key]
  | _ => []

/-- How many runs a move starts. -/
def Move.starts : Move → Nat
  | start => 1
  | _ => 0

/-- **What somebody outside, or the clock, does to a world.** No task moves: some are added, and
some come to the queue. -/
structure Outside (m : Move) (w w' : World) : Prop where
  permits : w'.permits = w.permits
  providers : w'.providers = w.providers
  log : w'.log = w.log
  tasks : w'.tasks = w.tasks ++ w.newcomers m
  ready : w.ready ⊆ w'.ready
  new : ∀ j, w.tasks.length ≤ j → j < w'.tasks.length → j ∈ w'.ready
  signal : w'.signal = m.gives w.signal
  admission : w'.admission = (w.admission.countNew m.offered).2
  runs : w'.runs = w.runs + m.starts

namespace Outside

/-- A move that adds nobody. -/
theorem of_same {m : Move} (hm : w.newcomers m = []) (hstarts : m.starts = 0)
    (hoffered : m.offered = []) (hpermits : w'.permits = w.permits)
    (hproviders : w'.providers = w.providers) (hlog : w'.log = w.log) (htasks : w'.tasks = w.tasks)
    (hready : w.ready ⊆ w'.ready) (hsignal : w'.signal = m.gives w.signal)
    (hadmission : w'.admission = w.admission) (hruns : w'.runs = w.runs) : Outside m w w' := by
  refine ⟨hpermits, hproviders, hlog, ?_, hready, fun j hj hlt => ?_, hsignal, ?_, ?_⟩
  · rw [hm, htasks, List.append_nil]
  · rw [htasks] at hlt
    exact absurd hj (Nat.not_le_of_lt hlt)
  · rw [hoffered, hadmission]
    rfl
  · rw [hstarts, hruns]
    rfl

theorem wakeAll {m : Move} (h : Outside m w w') (tasks : List Nat) :
    Outside m w (w'.wakeAll tasks) := by
  obtain ⟨more, hw, -⟩ := wakeAll_eq w' tasks
  rw [hw]
  exact ⟨h.permits, h.providers, h.log, h.tasks, fun j hj => List.mem_append_left _ (h.ready hj),
    fun j hj hlt => List.mem_append_left _ (h.new j hj hlt), h.signal, h.admission, h.runs⟩

theorem withBus {m : Move} (h : Outside m w w') (bus : Bus) (parties : List Wake) :
    Outside m w (w'.withBus bus parties) := by
  obtain ⟨more, hw⟩ := withBus_eq w' bus parties
  rw [hw]
  exact ⟨h.permits, h.providers, h.log, h.tasks, fun j hj => List.mem_append_left _ (h.ready hj),
    fun j hj hlt => List.mem_append_left _ (h.new j hj hlt), h.signal, h.admission, h.runs⟩

theorem spawn {m : Move} {t : Task} (hm : w.newcomers m = [t]) (hstarts : m.starts = 0)
    (hoffered : m.offered = []) (hgives : m.gives w.signal = w.signal) :
    Outside m w (w.spawn t) := by
  obtain ⟨more, hw, hmem⟩ := spawn_eq w t
  rw [hw]
  refine ⟨rfl, rfl, rfl, by rw [hm], List.subset_append_left _ _, fun j hj hlt => ?_, hgives.symm,
    ?_, ?_⟩
  · rw [List.length_append, List.length_singleton] at hlt
    obtain rfl : j = w.tasks.length := by omega
    exact hmem
  · rw [hoffered]
    rfl
  · rw [hstarts]
    rfl

theorem start (w : World) : Outside .start w w.start := by
  obtain ⟨more, hw, hmem⟩ := start_eq w
  rw [hw]
  refine ⟨rfl, rfl, rfl, rfl, List.subset_append_left _ _, fun j hj hlt => hmem j hj ?_, rfl, rfl,
    rfl⟩
  simpa using hlt

end Outside

/-- **Every move but a poll comes from outside.** -/
theorem act_outside (w : World) {m : Move} (hm : ∀ i, m ≠ .poll i) : Outside m w (w.act m) := by
  have hrefl : ∀ m : Move, w.newcomers m = [] → m.starts = 0 → m.offered = [] →
      m.gives w.signal = w.signal → Outside m w w := fun m hm hstarts hoffered hgives =>
    .of_same hm hstarts hoffered rfl rfl rfl rfl (List.Subset.refl _) hgives.symm rfl rfl
  cases m with
  | start => exact Outside.start w
  | poll task => exact absurd rfl (hm task)
  | clock moment =>
    exact .of_same rfl rfl rfl rfl rfl rfl rfl (List.Subset.refl _) rfl rfl rfl
  | fire moment =>
    refine Outside.wakeAll ?_ _
    exact .of_same rfl rfl rfl rfl rfl rfl rfl (List.Subset.refl _) rfl rfl rfl
  | send value =>
    refine Outside.wakeAll ?_ _
    exact .of_same rfl rfl rfl rfl rfl rfl rfl (List.Subset.refl _) rfl rfl rfl
  | dropSignal =>
    refine Outside.wakeAll ?_ _
    exact .of_same rfl rfl rfl rfl rfl rfl rfl (List.Subset.refl _) rfl rfl rfl
  | subscribe =>
    simp only [act, subscribe?]
    rcases w.bus.subscribe? with _ | ⟨queue, bus⟩
    · exact hrefl _ rfl rfl rfl rfl
    · exact .of_same rfl rfl rfl rfl rfl rfl rfl (List.Subset.refl _) rfl rfl rfl
  | unsubscribe queue => exact (hrefl _ rfl rfl rfl rfl).withBus _ _
  | take queue => exact (hrefl _ rfl rfl rfl rfl).withBus _ _
  | drain queue => exact (hrefl _ rfl rfl rfl rfl).withBus _ _
  | consume sink queue => exact .spawn rfl rfl rfl rfl
  | post event => exact .spawn rfl rfl rfl rfl
  | offer key =>
    refine ⟨rfl, rfl, rfl, (List.append_nil _).symm, List.Subset.refl _, fun j hj hlt => ?_, rfl,
      rfl, rfl⟩
    exact absurd hj (Nat.not_le_of_lt hlt)
  | closeBus => exact (hrefl _ rfl rfl rfl rfl).withBus _ _

/-- A move is a poll, which leaves the setting as it is, or comes from outside. -/
theorem act_cases (w : World) (m : Move) :
    (∃ i, m = .poll i ∧ (w.act m).setting = w.setting) ∨ Outside m w (w.act m) := by
  by_cases hm : ∀ i, m ≠ .poll i
  · exact Or.inr (act_outside w hm)
  · obtain ⟨i, hi⟩ := not_forall.1 hm
    obtain rfl := not_not.1 hi
    exact Or.inl ⟨i, rfl, setting_poll _ i⟩

/-- **The roster grows by those whom a move adds.** -/
theorem roster_act (w : World) (m : Move) : (w.act m).roster = w.roster ++ w.newcomers m := by
  rcases act_cases w m with ⟨i, rfl, h⟩ | h
  · exact (congrArg Setting.roster h).trans (List.append_nil _).symm
  · unfold roster
    rw [h.tasks, List.map_append, List.map_congr_left fun t ht => fresh_of_mem_newcomers ht,
      List.map_id']

theorem runs_act (w : World) (m : Move) : (w.act m).runs = w.runs + m.starts := by
  rcases act_cases w m with ⟨i, rfl, h⟩ | h
  · exact congrArg Setting.runs h
  · exact h.runs

theorem sources_act (w : World) (m : Move) :
    (w.act m).providers.map Provider.fresh = w.providers.map Provider.fresh := by
  rcases act_cases w m with ⟨i, rfl, h⟩ | h
  · exact congrArg Setting.sources h
  · rw [h.providers]

theorem signal_act (w : World) (m : Move) : (w.act m).signal = m.gives w.signal := by
  rcases act_cases w m with ⟨i, rfl, h⟩ | h
  · exact congrArg Setting.signal h
  · exact h.signal

/-! ### Runs of moves -/

/-- Who is added by a move belongs to a run that the move starts. -/
theorem run_of_newcomer {k : Worker} {m : Move} (h : Task.worker k ∈ w.newcomers m) :
    k.run = w.runs ∧ m.starts = 1 := by
  cases m with
  | start =>
    obtain ⟨k', hk', heq⟩ := List.mem_map.1 h
    obtain rfl := Task.worker.inj heq
    obtain ⟨s, -, rfl⟩ := List.mem_map.1 hk'
    exact ⟨rfl, rfl⟩
  | _ => simp [newcomers] at h

/-- **Those who are added by moves belong to runs that are started by them.** -/
theorem roster_run (w : World) (moves : List Move) : ∃ more,
    (w.run moves).roster = w.roster ++ more ∧ w.runs ≤ (w.run moves).runs ∧
      ∀ k, Task.worker k ∈ more → w.runs ≤ k.run ∧ k.run < (w.run moves).runs := by
  induction moves generalizing w with
  | nil => exact ⟨[], (List.append_nil _).symm, Nat.le_refl _, by simp⟩
  | cons m moves ih =>
    obtain ⟨more, hroster, hle, hruns⟩ := ih (w.act m)
    have hact := runs_act w m
    rw [show w.run (m :: moves) = (w.act m).run moves from rfl]
    refine ⟨w.newcomers m ++ more, ?_, by omega, fun k hk => ?_⟩
    · rw [← List.append_assoc, ← roster_act]
      exact hroster
    · rcases List.mem_append.1 hk with hk | hk
      · obtain ⟨hrun, hstarts⟩ := run_of_newcomer hk
        omega
      · have := hruns k hk
        omega

theorem sources_run (w : World) (moves : List Move) :
    (w.run moves).providers.map Provider.fresh = w.providers.map Provider.fresh := by
  induction moves generalizing w with
  | nil => rfl
  | cons m moves ih => exact (ih (w.act m)).trans (sources_act w m)

end World
end StatusRelay
