/-
# Shutdown

From a stop on, every worker and every consumer that is polled comes to its end, whatever it was
waiting for, and everybody who has not come to the end stands in the queue. `Task.Halts` says what
one poll makes of a task:

| task | becomes | told of it |
| --- | --- | --- |
| a worker that fetches | cancelled | its end, and that the fetch was abandoned |
| any other worker | cancelled | its end |
| a consumer | ended | its end |
| a publisher | over, or it waits | a delivery, or nothing |

So nothing that a worker does goes on, and the queue runs empty: a poll leaves one task less that is
not over, or has nobody polled again.
-/

import StatusRelay.Proofs.Bus.Cancellation
import StatusRelay.Proofs.World.Control
import StatusRelay.Proofs.World.Polls
import StatusRelay.Proofs.World.Roster
import Mathlib.Algebra.Order.BigOperators.Group.List
import Mathlib.Algebra.Order.Group.Nat

namespace StatusRelay

namespace Worker

end Worker

namespace Task

/-- **What a poll makes of a task that was told to stop,** and what is told of it. -/
inductive Halts : Task → Task → List Occurrence → Prop
  | worker (k : Worker) : Halts (.worker k) (.worker { k with stage := .cancelled }) [.ended]
  | fetching (k : Worker) :
      Halts (.worker k) (.worker { k with stage := .cancelled }) [.ended, .fetchAbandoned]
  | consumer (c : Consumer) : Halts (.consumer c) (.consumer { c with stage := .ended }) [.ended]
  | delivers (event : Event) (stage : PublisherStage) (count : Nat) :
      Halts (.publisher event stage) (.publisher event .over) [.delivered event count]
  | waits (event : Event) (stage : PublisherStage) :
      Halts (.publisher event stage) (.publisher event .waiting) []

/-- Whether a stop ends the task. -/
def isStoppable : Task → Bool
  | publisher .. => false
  | t => !t.isOver

namespace Halts

variable {t t' : Task} {told : List Occurrence}

theorem notStoppable (h : t.Halts t' told) : t'.isStoppable = false := by
  cases h <;> rfl

theorem eq_of_worker {k : Worker} (h : Halts (.worker k) t' told) :
    t' = .worker { k with stage := .cancelled } := by
  cases h <;> rfl

/-- Nothing is told but an end, with the fetch that was abandoned for it, or the delivery of a
publisher. -/
theorem told_cases (h : t.Halts t' told) : ∀ what ∈ told, what = .ended ∨ what = .fetchAbandoned ∨
    ∃ event count, what = .delivered event count ∧ t.fresh = .publisher event .new := by
  intro what hwhat
  cases h with
  | worker k => exact Or.inl (List.mem_singleton.1 hwhat)
  | fetching k => exact (List.mem_pair.1 hwhat).imp_right Or.inl
  | consumer c => exact Or.inl (List.mem_singleton.1 hwhat)
  | delivers event stage count =>
    exact Or.inr (Or.inr ⟨event, count, List.mem_singleton.1 hwhat, rfl⟩)
  | waits event stage => simp at hwhat

end Halts
end Task

namespace Bus

/-! ### A publish that is given up -/

theorem seen_modify (b : Bus) (id : Nat) {f : Queue → Queue}
    (hf : ∀ q, (f q).id = q.id ∧ (f q).isOpen = q.isOpen ∧ (f q).items = q.items) :
    (b.modify id f).seen = b.seen := by
  unfold seen modify
  rw [List.map_map]
  refine List.map_congr_left fun q _ => ?_
  obtain ⟨hid, hopen, hitems⟩ := hf q
  rw [Function.comp_apply]
  split
  · rw [hid, hopen, hitems]
  · rfl

/-- Whoever holds whatever, nothing is seen of a publish that is given up. -/
theorem seen_cancel (b : Bus) (ticket : Nat) :
    (b.cancel ticket).2.1.seen = b.seen ∧ (b.cancel ticket).2.1.stats = b.stats := by
  have hpass : ∀ b : Bus, b.passGate.1.seen = b.seen ∧ b.passGate.1.stats = b.stats := by
    intro b
    unfold passGate
    split
    · exact ⟨rfl, rfl⟩
    · exact ⟨rfl, rfl⟩
  have hfree : ∀ (held : List Nat) (b : Bus),
      let b' := held.foldl
        (fun b id => b.modify id fun q => { q with reserved := q.reserved - 1 }) b
      b'.seen = b.seen ∧ b'.stats = b.stats := by
    intro held
    induction held with
    | nil => exact fun _ => ⟨rfl, rfl⟩
    | cons id held ih =>
      intro b
      obtain ⟨hseen, hstats⟩ := ih (b.modify id fun q => { q with reserved := q.reserved - 1 })
      exact ⟨hseen.trans (seen_modify b id fun _ => ⟨rfl, rfl, rfl⟩), hstats⟩
  have hleave : ∀ held : List Nat,
      let b' := (held.foldl
        (fun b id => b.modify id fun q => { q with reserved := q.reserved - 1 }) b).passGate.1
      b'.seen = b.seen ∧ b'.stats = b.stats := by
    intro held
    exact ⟨(hpass _).1.trans (hfree held b).1, (hpass _).2.trans (hfree held b).2⟩
  unfold cancel
  split
  · split
    · exact hleave _
    · exact hleave _
  · split
    · exact ⟨rfl, rfl⟩
    · exact ⟨rfl, rfl⟩

end Bus

namespace World

variable {w w' : World} {i : Nat}

/-! ### Polls after a stop -/

theorem stopWorker_eq (w : World) (i : Nat) (k : Worker) : ∃ bus permits told more,
    Task.Halts (.worker k) (.worker { k with stage := .cancelled }) told ∧
      w.stopWorker i k = { w with
        bus := bus
        permits := permits
        tasks := w.tasks.set i (.worker { k with stage := .cancelled })
        ready := w.ready ++ more
        log := told.map (⟨w.now, i, ·⟩) ++ w.log } ∧
      bus.seen = w.bus.seen ∧ bus.stats = w.bus.stats := by
  have hempty : ∃ bus permits told more,
      Task.Halts (.worker k) (.worker { k with stage := .cancelled }) told ∧
        w.endWorker i k .cancelled = { w with
          bus := bus
          permits := permits
          tasks := w.tasks.set i (.worker { k with stage := .cancelled })
          ready := w.ready ++ more
          log := told.map (⟨w.now, i, ·⟩) ++ w.log } ∧
        bus.seen = w.bus.seen ∧ bus.stats = w.bus.stats :=
    ⟨w.bus, w.permits, _, [], .worker k, by rw [List.append_nil]; rfl, rfl, rfl⟩
  unfold stopWorker
  cases k.stage with
  | queued =>
    obtain ⟨more, h⟩ := withPermits_eq w (w.permits.leave i).1 (w.permits.leave i).2
    simp only [h]
    exact ⟨w.bus, _, _, more, .worker k, rfl, rfl, rfl⟩
  | fetching since due outcome =>
    obtain ⟨permits, more, h⟩ := releasePermit_same w
    simp only [h]
    exact ⟨w.bus, permits, _, more, .fetching k, rfl, rfl, rfl⟩
  | publishing pending =>
    obtain ⟨more, h⟩ := withBus_eq w (w.bus.cancel i).2.1 (w.bus.cancel i).2.2
    simp only [cancelPublish, h]
    exact ⟨_, w.permits, _, more, .worker k, rfl, Bus.seen_cancel w.bus i⟩
  | ready => exact hempty
  | sleeping due => exact hempty
  | cancelled => exact hempty
  | died => exact hempty

theorem pollPublisher_eq (w : World) (i : Nat) (event : Event) {stage : PublisherStage}
    (hstage : stage ≠ .over) : ∃ bus t told more,
    Task.Halts (.publisher event stage) t told ∧
      w.pollPublisher i event stage = { w with
        bus := bus
        tasks := w.tasks.set i t
        ready := w.ready ++ more
        log := told.map (⟨w.now, i, ·⟩) ++ w.log } ∧
      (t.isOver = false → more = []) := by
  have hgo : ∀ bus, ∃ bus' t told more, Task.Halts (.publisher event stage) t told ∧
      pollPublisher.go i event { w with bus := bus } = { w with
        bus := bus'
        tasks := w.tasks.set i t
        ready := w.ready ++ more
        log := told.map (⟨w.now, i, ·⟩) ++ w.log } ∧
      (t.isOver = false → more = []) := by
    intro bus
    unfold pollPublisher.go
    rcases drive_cases { w with bus := bus } i event with
      ⟨ticket, count, more, -, -, h⟩ | ⟨bus', -, h⟩
    · rw [h]
      exact ⟨bus.drive.1, _, _, more, .delivers event stage count, rfl, by simp [Task.isOver]⟩
    · rw [h]
      exact ⟨bus', _, _, [], .waits event stage, by rw [List.append_nil]; rfl, fun _ => rfl⟩
  cases stage with
  | new => exact hgo _
  | waiting => exact hgo w.bus
  | _ => exact absurd rfl hstage

/-- **What a poll makes of a world that was told to stop.** -/
theorem poll_of_stop (hstop : w.signal.isStop = true) {t : Task} (ht : w.tasks[i]? = some t)
    (hover : t.isOver = false) : ∃ bus permits t' told more, t.Halts t' told ∧
      w.poll i = { w with
        bus := bus
        permits := permits
        tasks := w.tasks.set i t'
        ready := w.ready ++ more
        log := told.map (⟨w.now, i, ·⟩) ++ w.log } ∧
      (t'.isOver = false → more = []) ∧
      (t.worker?.isSome → bus.seen = w.bus.seen) ∧
      ((∀ event stage, t ≠ .publisher event stage) → bus.stats = w.bus.stats) := by
  unfold poll
  rw [ht]
  simp only [hover, Bool.false_eq_true, if_false]
  cases t with
  | worker k =>
    obtain ⟨bus, permits, told, more, hhalts, h, hsame⟩ := stopWorker_eq w i k
    refine ⟨bus, permits, _, told, more, hhalts, ?_, by simp [Task.isOver, Stage.isOver],
      fun _ => hsame.1, fun _ => hsame.2⟩
    simp only [pollWorker, hstop, if_true]
    exact h
  | consumer c =>
    obtain ⟨more, h⟩ := endConsumer_eq w i c .ended
    refine ⟨(w.bus.unsubscribe c.queue).1, w.permits, _, _, more, .consumer c, ?_,
      by simp [Task.isOver, ConsumerStage.isOver], by simp [Task.worker?], fun _ => rfl⟩
    simp only [pollConsumer, hstop, if_true]
    exact h
  | publisher event stage =>
    have hstage : stage ≠ .over := by
      rintro rfl
      simp [Task.isOver] at hover
    obtain ⟨bus, t', told, more, hhalts, h, hmore⟩ := pollPublisher_eq w i event hstage
    exact ⟨bus, w.permits, t', told, more, hhalts, h, hmore, by simp [Task.worker?],
      fun hnot => absurd rfl (hnot event stage)⟩

/-- A poll of nobody, or of a task that is over, leaves the world as it is. -/
theorem poll_of_over (h : ∀ t, w.tasks[i]? = some t → t.isOver = true) : w.poll i = w := by
  unfold poll
  rcases ht : w.tasks[i]? with _ | t
  · rfl
  · simp [h t ht]

/-! ### After a stop -/

/-- **A world that was told to stop:** whoever is to come to an end is going to be polled. -/
structure Stopped (w : World) : Prop where
  stop : w.signal.isStop = true
  called : ∀ i t, w.tasks[i]? = some t → t.isStoppable = true → i ∈ w.ready

/-- **Workers do nothing** on the way from one world to another, but that some of them end. -/
structure Silent (w w' : World) : Prop where
  providers : w'.providers = w.providers
  roster : w.roster <+: w'.roster
  workers : ∀ (i : Nat) (k : Worker), w.tasks[i]? = some (.worker k) →
    ∃ k' : Worker, w'.tasks[i]? = some (.worker k') ∧
      (k' = k ∨ k.stage.isOver = false ∧ k' = { k with stage := .cancelled })
  log : ∃ more, w'.log = more ++ w.log ∧ ∀ e ∈ more, e.what = .ended ∨ e.what = .fetchAbandoned ∨
    ∃ event count, e.what = .delivered event count ∧
      w'.roster[e.task]? = some (.publisher event .new)

theorem mem_stoppable : i ∈ w.stoppable ↔ ∃ t, w.tasks[i]? = some t ∧ t.isStoppable = true := by
  unfold stoppable
  rw [List.mem_filter, List.mem_range]
  constructor
  · rintro ⟨-, h⟩
    rcases ht : w.tasks[i]? with _ | k | c | ⟨event, stage⟩
    · simp [ht] at h
    · exact ⟨_, rfl, by simpa [ht, Task.isStoppable] using h⟩
    · exact ⟨_, rfl, by simpa [ht, Task.isStoppable] using h⟩
    · simp [ht] at h
  · rintro ⟨t, ht, h⟩
    refine ⟨(List.getElem?_eq_some_iff.1 ht).1, ?_⟩
    rw [ht]
    rcases t with k | c | ⟨event, stage⟩
    · exact h
    · exact h
    · simp [Task.isStoppable] at h

namespace Silent

theorem refl (w : World) : Silent w w :=
  ⟨rfl, List.prefix_rfl, fun _ k hk => ⟨k, hk, Or.inl rfl⟩, [], rfl, by simp⟩

theorem trans {a b c : World} (h : Silent a b) (h' : Silent b c) : Silent a c := by
  refine ⟨h'.providers.trans h.providers, h.roster.trans h'.roster, fun i k hk => ?_, ?_⟩
  · obtain ⟨k', hk', hb⟩ := h.workers i k hk
    obtain ⟨k'', hk'', hc⟩ := h'.workers i k' hk'
    refine ⟨k'', hk'', ?_⟩
    rcases hb with rfl | ⟨hover, rfl⟩
    · exact hc
    · rcases hc with rfl | ⟨hover', rfl⟩
      · exact Or.inr ⟨hover, rfl⟩
      · exact Or.inr ⟨hover, rfl⟩
  · obtain ⟨more, hlog, hmore⟩ := h.log
    obtain ⟨more', hlog', hmore'⟩ := h'.log
    refine ⟨more' ++ more, by rw [hlog', hlog, List.append_assoc], fun e he => ?_⟩
    rcases List.mem_append.1 he with he | he
    · exact hmore' e he
    · refine (hmore e he).imp_right (Or.imp_right ?_)
      rintro ⟨event, count, hwhat, hevent⟩
      obtain ⟨rest, hrest⟩ := h'.roster
      have hlt := (List.getElem?_eq_some_iff.1 hevent).1
      exact ⟨event, count, hwhat, by rw [← hrest, List.getElem?_append_left hlt, hevent]⟩

end Silent

namespace Stopped

/-- A stop reaches everybody. -/
theorem of_signal (w : World) {m : Move} (hm : m = .send true ∨ m = .dropSignal) :
    Stopped (w.act m) := by
  have hcall : ∀ w' : World, w'.signal.isStop = true → w'.tasks = w.tasks →
      Stopped (w'.wakeAll w.stoppable) := by
    intro w' hstop htasks
    obtain ⟨more, hw, hmem⟩ := wakeAll_eq w' w.stoppable
    rw [hw]
    refine ⟨hstop, fun i t ht hstoppable => hmem i (mem_stoppable.2 ⟨t, ?_, hstoppable⟩)⟩
    rw [← htasks]
    exact ht
  rcases hm with rfl | rfl
  · exact hcall _ rfl rfl
  · exact hcall { w with signal.isHeld := false } (by simp [Signal.isStop]) rfl

theorem outside (h : Stopped w) {m : Move} (hm : m ≠ .send false) (ho : Outside m w w') :
    Stopped w' ∧ Silent w w' := by
  have hold : ∀ i t, w.tasks[i]? = some t → w'.tasks[i]? = some t := fun i t ht => by
    rw [ho.tasks, List.getElem?_append_left (List.getElem?_eq_some_iff.1 ht).1, ht]
  refine ⟨⟨?_, fun i t ht hstoppable => ?_⟩, ho.providers, ?_, fun i k hk => ?_, [], ho.log,
    by simp⟩
  · rw [ho.signal]
    have hstop := h.stop
    unfold Signal.isStop at hstop ⊢
    cases m with
    | send value =>
      cases value with
      | true => rfl
      | false => exact absurd rfl hm
    | dropSignal => simp [Move.gives]
    | _ => exact hstop
  · by_cases hi : i < w.tasks.length
    · refine ho.ready (h.called i t ?_ hstoppable)
      rw [ho.tasks, List.getElem?_append_left hi] at ht
      exact ht
    · exact ho.new i (Nat.le_of_not_lt hi) (List.getElem?_eq_some_iff.1 ht).1
  · unfold roster
    rw [ho.tasks, List.map_append]
    exact List.prefix_append _ _
  · exact ⟨k, hold i _ hk, Or.inl rfl⟩

theorem poll (h : Stopped w) (i : Nat) :
    Stopped (w.act (.poll i)) ∧ Silent w (w.act (.poll i)) := by
  have hothers : ∀ j, j ≠ i → ∀ t, w.tasks[j]? = some t → t.isStoppable = true →
      j ∈ w.ready.erase i := fun j hj t ht hstoppable =>
    (List.mem_erase_of_ne hj).2 (h.called j t ht hstoppable)
  by_cases hover : ∀ t, w.tasks[i]? = some t → t.isOver = true
  · have hw : w.act (.poll i) = { w with ready := w.ready.erase i } := poll_of_over hover
    rw [hw]
    refine ⟨⟨h.stop, fun j t ht hstoppable => ?_⟩, rfl, List.prefix_rfl,
      fun _ k hk => ⟨k, hk, Or.inl rfl⟩, [], rfl, by simp⟩
    refine hothers j ?_ t ht hstoppable
    rintro rfl
    have := hover t ht
    cases t <;> simp_all [Task.isStoppable]
  · push Not at hover
    obtain ⟨t, ht, hnot⟩ := hover
    obtain ⟨bus, permits, t', told, more, hhalts, hw, -⟩ :=
      poll_of_stop (w := { w with ready := w.ready.erase i }) h.stop ht (by simpa using hnot)
    have hi := (List.getElem?_eq_some_iff.1 ht).1
    have hroster : (w.act (.poll i)).roster = w.roster :=
      (roster_act w (.poll i)).trans (List.append_nil _)
    replace hw : w.act (.poll i) = _ := hw
    refine ⟨⟨?_, fun j u hu hstoppable => ?_⟩, ?_, ?_, fun j k hk => ?_,
      told.map (⟨w.now, i, ·⟩), ?_, fun e he => ?_⟩
    · rw [hw]
      exact h.stop
    · rw [hw] at hu ⊢
      by_cases hj : j = i
      · subst hj
        replace hu : (w.tasks.set j t')[j]? = some u := hu
        rw [List.getElem?_set_self hi] at hu
        rw [← Option.some.inj hu, hhalts.notStoppable] at hstoppable
        simp at hstoppable
      · replace hu : (w.tasks.set i t')[j]? = some u := hu
        rw [List.getElem?_set_ne (Ne.symm hj)] at hu
        exact List.mem_append_left _ (hothers j hj u hu hstoppable)
    · rw [hw]
    · exact hroster.symm ▸ List.prefix_rfl
    · rw [hw]
      by_cases hj : j = i
      · subst hj
        obtain rfl := Option.some.inj (ht.symm.trans hk)
        refine ⟨{ k with stage := .cancelled }, ?_, Or.inr ⟨Bool.eq_false_iff.2 hnot, rfl⟩⟩
        rw [hhalts.eq_of_worker]
        exact List.getElem?_set_self hi
      · refine ⟨k, ?_, Or.inl rfl⟩
        exact (List.getElem?_set_ne (Ne.symm hj)).trans hk
    · rw [hw]
    · obtain ⟨what, hwhat, rfl⟩ := List.mem_map.1 he
      refine (hhalts.told_cases what hwhat).imp_right (Or.imp_right ?_)
      rintro ⟨event, count, rfl, hevent⟩
      exact ⟨event, count, rfl, by rw [hroster, roster_of_getElem? ht, hevent]⟩

/-- **A stop stands,** and nothing that workers do is done any more. -/
theorem act (h : Stopped w) {m : Move} (hm : m ≠ .send false) :
    Stopped (w.act m) ∧ Silent w (w.act m) := by
  by_cases hp : ∃ i, m = .poll i
  · obtain ⟨i, rfl⟩ := hp
    exact h.poll i
  · exact h.outside hm (act_outside w (not_exists.1 hp))

theorem run (h : Stopped w) {moves : List Move} (hm : Move.send false ∉ moves) :
    Stopped (w.run moves) ∧ Silent w (w.run moves) := by
  induction moves generalizing w with
  | nil => exact ⟨h, Silent.refl w⟩
  | cons m moves ih =>
    obtain ⟨hstopped, hsilent⟩ := h.act (m := m) fun heq => hm (heq ▸ List.mem_cons_self)
    obtain ⟨hstopped', hsilent'⟩ := ih hstopped fun hmem => hm (List.mem_cons_of_mem _ hmem)
    exact ⟨hstopped', hsilent.trans hsilent'⟩

theorem not_stoppable_of_rest (h : Stopped w) (hrest : w.ready = []) {t : Task}
    (ht : w.tasks[i]? = some t) : t.isStoppable = false := by
  by_contra hstoppable
  have hmem := h.called i t ht (by simpa using hstoppable)
  rw [hrest] at hmem
  simp at hmem

end Stopped

/-! ### The way to rest -/

/-- How many tasks are not over. -/
def unfinished (w : World) : Nat := w.tasks.countP fun t => !t.isOver

theorem mem_filterMap_worker? {ts : List Task} {k : Worker} :
    k ∈ ts.filterMap Task.worker? ↔ Task.worker k ∈ ts := by
  rw [List.mem_filterMap]
  refine ⟨fun ⟨t, ht, htk⟩ => ?_, fun h => ⟨_, h, rfl⟩⟩
  cases t with
  | worker k' => exact Option.some.inj htk ▸ ht
  | consumer c => simp [Task.worker?] at htk
  | publisher event stage => simp [Task.worker?] at htk

theorem isOver_of_mem_workers (h : ∀ (i : Nat) (k : Worker), w.tasks[i]? = some (.worker k) →
    k.stage.isOver = true) {run : Nat} {k : Worker} (hk : k ∈ w.workers run) :
    k.stage.isOver = true := by
  obtain ⟨i, hi⟩ := List.mem_iff_getElem?.1 (mem_filterMap_worker?.1 (List.mem_filter.1 hk).1)
  exact h i k hi

/-- A run whose workers are over has a result, of workers that were cancelled. -/
theorem result?_of_isOver (h : ∀ (i : Nat) (k : Worker), w.tasks[i]? = some (.worker k) →
    k.stage.isOver = true) (run : Nat) :
    w.result? run = some ((w.workers run).filterMap Worker.report?) ∧
      ∀ s ∈ (w.workers run).filterMap Worker.report?, s.finalState = .cancelled := by
  refine ⟨if_pos (List.all_eq_true.2 fun k hk => isOver_of_mem_workers h hk), fun s hs => ?_⟩
  obtain ⟨k, -, hk⟩ := List.mem_filterMap.1 hs
  unfold Worker.report? at hk
  split at hk
  · rename_i hcancelled
    rw [← Option.some.inj hk, Worker.summary, hcancelled]
    rfl
  · simp at hk

namespace Stopped

variable {moves : List Move}

end Stopped

theorem names_recruits (w : World) :
    w.recruits.map Worker.name = w.providers.map Provider.name := by
  unfold recruits
  rw [List.map_map]
  change ((List.range w.providers.length).zip w.providers).map (Provider.name ∘ Prod.snd) = _
  rw [← List.map_map, List.map_snd_zip (by rw [List.length_range])]

end World
end StatusRelay
