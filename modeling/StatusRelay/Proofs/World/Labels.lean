/-
# Under which names the record counts

Some occurrences carry a name: those of a fetch and of a publish that of the provider, and what a
sink has dealt with that of the sink. It is always the name of the task to which they happen. So
what the record tells under a name is what it tells of the tasks with that name.

| task | named in |
| --- | --- |
| a worker | `fetchEnded`, `filtered`, `published` |
| a consumer | `handled` |
| a publisher | nothing |

`Signs` says this of one poll. It also says that the bus counts those deliveries of which the record
is told.
-/

import Mathlib.Data.List.Induction
import StatusRelay.Proofs.Bus.Queues
import StatusRelay.Proofs.Metrics
import StatusRelay.Proofs.World.Frames
import StatusRelay.Proofs.World.Polls
import StatusRelay.Proofs.World.Shutdown

namespace StatusRelay

/-- The name under which a task is counted. -/
def Task.label? : Task → Option Label
  | worker k => some (.provider k.name)
  | consumer c => some (.consumer c.sink.name)
  | publisher .. => none

namespace Task

variable (t : Task) {what : Occurrence}

theorem label?_fresh : t.fresh.label? = t.label? := by
  cases t <;> rfl

/-- **A task signs with its name.** -/
theorem label?_of_writes (h : t.Writes what) : what.label? = none ∨ what.label? = t.label? := by
  cases t with
  | worker k => cases h <;> simp [Occurrence.label?, label?]
  | consumer c => cases h <;> simp [Occurrence.label?, label?]
  | publisher event stage => exact h.elim

/-- Deliveries are recorded where a publish is moved on. -/
theorem deliveries_of_writes (h : t.Writes what) : what.deliveries = 0 := by
  cases t with
  | worker k => cases h <;> rfl
  | consumer c => cases h <;> rfl
  | publisher event stage => exact h.elim

end Task

namespace Bus

/-! ### Deliveries of the bus -/

theorem stats_request (b : Bus) (ticket : Nat) (event : Event) :
    (b.request ticket event).stats = b.stats := by
  unfold request
  split <;> rfl

theorem stats_take (b : Bus) (id : Nat) : (b.take id).2.1.stats = b.stats := by
  rw [take_eq]

theorem stats_drain (b : Bus) (id : Nat) : (b.drain id).2.1.stats = b.stats := by
  unfold drain
  split <;> rfl

theorem stats_reserve (b : Bus) (p : Publication) (held gone ahead : List Nat) :
    (b.reserve p held gone ahead).1.stats = b.stats := by
  fun_induction reserve b p held gone ahead <;> simp_all [modify]

theorem deliveries_complete (b : Bus) (r : Reservation) :
    (b.complete r).1.stats.deliveries = b.stats.deliveries + (b.complete r).2.1 := by
  unfold complete
  simp only
  rw [passGate_eq]

/-- **A publish counts its deliveries when it is completed.** -/
theorem deliveries_drive (b : Bus) : b.drive.1.stats.deliveries =
    b.stats.deliveries + (b.drive.2.1.map (·.2)).getD 0 := by
  rcases hr : b.start? with _ | r
  · rw [drive_of_free (start?_eq_none.1 hr)]
    rfl
  · have hstats := stats_reserve b r.request r.held r.gone r.ahead
    rw [drive_of_start? hr]
    rcases hres : b.reserve r.request r.held r.gone r.ahead with ⟨b', r'⟩
    rw [hres] at hstats
    have hcomplete := deliveries_complete b' r'
    rw [hstats] at hcomplete
    simp only
    split
    · exact hcomplete
    · exact congrArg BusStats.deliveries hstats

end Bus

namespace World

/-- How many deliveries a record tells of. -/
def deliveriesIn (log : List Occurrence.Entry) : Nat := (log.map (·.what.deliveries)).sum

/-- **Something has happened to one task,** which is named in it, if anybody is. Every delivery that
the bus counts is recorded. -/
def Signs (i : Nat) (label : Option Label) (w w' : World) : Prop :=
  ∃ more, w'.log = more ++ w.log ∧
    (∀ e ∈ more, e.task = i ∧ (e.what.label? = none ∨ e.what.label? = label)) ∧
    w'.bus.stats.deliveries = w.bus.stats.deliveries + deliveriesIn more

namespace Signs

variable {i : Nat} {label : Option Label} {w w' : World}

theorem of_same (hlog : w'.log = w.log) (hstats : w'.bus.stats = w.bus.stats) :
    Signs i label w w' :=
  ⟨[], hlog, by simp, by rw [hstats]; rfl⟩

theorem refl (w : World) : Signs i label w w := of_same rfl rfl

theorem trans {a b c : World} (h : Signs i label a b) (h' : Signs i label b c) :
    Signs i label a c := by
  obtain ⟨more, hlog, hmore, hcount⟩ := h
  obtain ⟨more', hlog', hmore', hcount'⟩ := h'
  refine ⟨more' ++ more, by rw [hlog', hlog, List.append_assoc], fun e he => ?_, ?_⟩
  · exact (List.mem_append.1 he).elim (hmore' e) (hmore e)
  · rw [hcount', hcount, deliveriesIn, deliveriesIn, deliveriesIn, List.map_append, List.sum_append]
    omega

theorem note (w : World) (what : Occurrence)
    (hlabel : what.label? = none ∨ what.label? = label) (hcount : what.deliveries = 0) :
    Signs i label w (w.note i what) :=
  ⟨[⟨w.now, i, what⟩], rfl, by simpa using hlabel, by
    simp [World.note, deliveriesIn, hcount]⟩

theorem withBus (w : World) {bus : Bus} (parties : List Wake) (hstats : bus.stats = w.bus.stats) :
    Signs i label w (w.withBus bus parties) := by
  obtain ⟨more, hw⟩ := withBus_eq w bus parties
  rw [hw]
  exact of_same rfl hstats

theorem withPermits (w : World) (permits : Permits) (given : Option Nat) :
    Signs i label w (w.withPermits permits given) := by
  obtain ⟨more, hw⟩ := withPermits_eq w permits given
  rw [hw]
  exact of_same rfl rfl

theorem setTimer (w : World) (task due : Nat) : Signs i label w (w.setTimer task due) := by
  obtain ⟨more, timers, hw⟩ := setTimer_eq w task due
  rw [hw]
  exact of_same rfl rfl

theorem drive (w : World) (event : Event) : Signs i label w (w.drive i event).1 := by
  rcases drive_cases w i event with ⟨ticket, count, more, -, hd, h⟩ | ⟨bus, hbus, h⟩
  · rw [h]
    refine ⟨[⟨w.now, i, .delivered event count⟩], rfl, by simp [Occurrence.label?], ?_⟩
    simpa [hd, deliveriesIn, Occurrence.deliveries] using Bus.deliveries_drive w.bus
  · rw [h]
    rcases hbus with rfl | ⟨hd, rfl⟩
    · exact refl w
    · refine ⟨[], rfl, by simp, ?_⟩
      simpa [hd, deliveriesIn] using Bus.deliveries_drive w.bus

theorem frame (i : Nat) {may : Occurrence → Prop}
    (hmay : ∀ what, may what →
      (what.label? = none ∨ what.label? = label) ∧ what.deliveries = 0) :
    Frame i may (Signs i label) where
  refl := refl
  trans := trans
  put _ _ := of_same rfl rfl
  note w _ h := note w _ (hmay _ h).1 (hmay _ h).2
  setTimer w := setTimer w i
  request _ _ := of_same rfl (Bus.stats_request _ _ _)
  drive := drive
  cancel w := withBus w _ (Bus.seen_cancel _ _).2
  permit := withPermits
  collect _ _ := of_same rfl rfl
  remember _ _ := of_same rfl rfl
  ask _ _ := of_same rfl rfl
  take w _ := withBus w _ (Bus.stats_take _ _)
  leave w _ := withBus w _ rfl

/-- **A poll names nobody but the task that is polled.** -/
theorem poll (w : World) {t : Task} (ht : w.tasks[i]? = some t) :
    Signs i t.label? w (w.poll i) :=
  (frame i fun _ hwrites => ⟨t.label?_of_writes hwrites, t.deliveries_of_writes hwrites⟩).poll ht

end Signs

/-! ### Runs -/

theorem bus_wakeAll (w : World) (tasks : List Nat) : (w.wakeAll tasks).bus = w.bus := by
  obtain ⟨more, hw, -⟩ := wakeAll_eq w tasks
  rw [hw]

theorem bus_spawn (w : World) (t : Task) : (w.spawn t).bus = w.bus := by
  obtain ⟨more, hw, -⟩ := spawn_eq w t
  rw [hw]

theorem bus_withBus (w : World) (bus : Bus) (parties : List Wake) :
    (w.withBus bus parties).bus = bus := by
  obtain ⟨more, hw⟩ := withBus_eq w bus parties
  rw [hw]

/-- **Nobody outside delivers anything.** -/
theorem stats_act (w : World) {m : Move} (hm : ∀ i, m ≠ .poll i) :
    (w.act m).bus.stats = w.bus.stats := by
  cases m with
  | poll i => exact absurd rfl (hm i)
  | start =>
    obtain ⟨more, hw, -⟩ := start_eq w
    exact (congrArg (fun w : World => w.bus.stats) hw).trans rfl
  | consume sink queue => exact congrArg Bus.stats (bus_spawn _ _)
  | post event => exact congrArg Bus.stats (bus_spawn _ _)
  | fire moment => exact congrArg Bus.stats (bus_wakeAll _ _)
  | send value => exact congrArg Bus.stats (bus_wakeAll _ _)
  | dropSignal => exact congrArg Bus.stats (bus_wakeAll _ _)
  | subscribe =>
    simp only [World.act, World.subscribe?, Bus.subscribe?]
    split_ifs <;> rfl
  | unsubscribe queue => exact (congrArg Bus.stats (bus_withBus _ _ _)).trans rfl
  | take queue => exact (congrArg Bus.stats (bus_withBus _ _ _)).trans (Bus.stats_take _ _)
  | drain queue => exact (congrArg Bus.stats (bus_withBus _ _ _)).trans (Bus.stats_drain _ _)
  | closeBus => exact (congrArg Bus.stats (bus_withBus _ _ _)).trans rfl
  | clock moment => rfl
  | offer key => rfl

/-- **Who is named in the record is the task** to which the entry belongs, and every delivery that
the bus counts is recorded. -/
structure Labelled (w : World) : Prop where
  signed : ∀ e ∈ w.log, ∃ t, w.roster[e.task]? = some t ∧
    (e.what.label? = none ∨ e.what.label? = t.label?)
  deliveries : w.bus.stats.deliveries = deliveriesIn w.log

namespace Labelled

variable {w : World}

theorem poll (h : Labelled w) (i : Nat) : Labelled (w.poll i) := by
  rcases ht : w.tasks[i]? with _ | t
  · have hw : w.poll i = w := by simp [World.poll, ht]
    rw [hw]
    exact h
  · have hroster : (w.poll i).roster = w.roster := congrArg Setting.roster (setting_poll w i)
    obtain ⟨more, hlog, hmore, hcount⟩ := Signs.poll w ht
    refine ⟨fun e he => ?_, ?_⟩
    · rw [hlog] at he
      rw [hroster]
      rcases List.mem_append.1 he with he | he
      · obtain ⟨rfl, hlabel⟩ := hmore e he
        exact ⟨t.fresh, roster_of_getElem? ht, by rwa [Task.label?_fresh]⟩
      · exact h.signed e he
    · rw [hcount, hlog, h.deliveries, deliveriesIn, deliveriesIn, deliveriesIn, List.map_append,
        List.sum_append, Nat.add_comm]

theorem act (h : Labelled w) (m : Move) : Labelled (w.act m) := by
  by_cases hm : ∀ i, m ≠ .poll i
  · have houtside := act_outside w hm
    refine ⟨fun e he => ?_, ?_⟩
    · rw [houtside.log] at he
      obtain ⟨t, ht, hlabel⟩ := h.signed e he
      refine ⟨t, ?_, hlabel⟩
      rw [roster_act, List.getElem?_append_left (List.getElem?_eq_some_iff.1 ht).1]
      exact ht
    · rw [stats_act w hm, houtside.log]
      exact h.deliveries
  · obtain ⟨i, hi⟩ := not_forall.1 hm
    obtain rfl := not_not.1 hi
    exact poll (w := { w with ready := w.ready.erase i }) ⟨h.signed, h.deliveries⟩ i

theorem run (limit : Nat) (capacity : Option Nat) (providers : List Provider)
    (moves : List Move) : Labelled ((World.new limit capacity providers).run moves) := by
  induction moves using List.reverseRecOn with
  | nil => exact ⟨by simp [World.run, World.new], rfl⟩
  | append_singleton moves m ih =>
    rw [run_concat]
    exact ih.act m

/-- What a record tells of a task under a label. -/
theorem label?_of_mem (h : Labelled w) {i : Nat} {t : Task} (ht : w.tasks[i]? = some t)
    {e : Occurrence.Entry} (he : e ∈ ofTask i w.log) :
    e.what.label? = none ∨ e.what.label? = t.label? := by
  obtain ⟨hmem, htask⟩ := List.mem_filter.1 he
  obtain ⟨t', ht', hlabel⟩ := h.signed e hmem
  rw [beq_iff_eq.1 htask, roster_of_getElem? ht] at ht'
  rwa [← Option.some.inj ht', Task.label?_fresh] at hlabel

end Labelled

end World
end StatusRelay
