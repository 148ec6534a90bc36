/-
# Runs on several threads

Before a stop the tasks of a world on threads make strides, and time passes. After a stop they are
polled as well, and those that have looked at the signal before make a stride yet. What is known of
events, of counts and of the bus is sustained all the way: a run of motions keeps it, if no task
dies in the run. And nothing is published after a stop but by the strides of workers, one event by
each at most.
-/

import StatusRelay.Proofs.World.Threads

namespace StatusRelay
namespace World

open Occurrence (sent)

variable {w w' : World} {i n : Nat} {t t' : Task} {told : List Occurrence}

/-! ### What is recorded -/

theorem ofTask_append_self (i time : Nat) (told : List Occurrence)
    (log : List Occurrence.Entry) : ofTask i (told.map (⟨time, i, ·⟩) ++ log) =
      told.map (⟨time, i, ·⟩) ++ ofTask i log := by
  unfold ofTask
  rw [List.filter_append, List.filter_eq_self.2 fun e he => ?_]
  obtain ⟨what, -, rfl⟩ := List.mem_map.1 he
  exact beq_self_eq_true i

theorem ofTask_append_ne {i j : Nat} (hj : j ≠ i) (time : Nat) (told : List Occurrence)
    (log : List Occurrence.Entry) :
    ofTask j (told.map (⟨time, i, ·⟩) ++ log) = ofTask j log := by
  unfold ofTask
  rw [List.filter_append, List.filter_eq_nil_iff.2 fun e he => ?_, List.nil_append]
  obtain ⟨what, -, rfl⟩ := List.mem_map.1 he
  simpa using Ne.symm hj

/-- Who counts what happens to a worker comes to what a record tells. -/
theorem told_append (i time : Nat) (told : List Occurrence) (log : List Occurrence.Entry) :
    WorkerTally.told (told.map (⟨time, i, ·⟩) ++ log) =
      (WorkerTally.told log).addAll told := by
  unfold WorkerTally.told WorkerTally.addAll
  rw [List.foldr_append, List.foldr_map]

/-- What a worker counts that names no event is no publish. -/
theorem published_addAll {told : List Occurrence} (h : ∀ what ∈ told, what.isBare = true)
    (t : WorkerTally) : (t.addAll told).published = t.published := by
  induction told with
  | nil => rfl
  | cons what told ih =>
    obtain ⟨hwhat, htold⟩ := List.forall_mem_cons.1 h
    exact (Occurrence.published_add_of_isBare hwhat _).trans (ih htold)

/-- **A stride of a task is counted by it** as it is told. -/
theorem Counted.strides {b b' : Bus} {s s' : Admission}
    (h : Counted (ofTask i w.log) t) (hs : t.Strides i b s t' b' s' told) :
    Counted (told.map (⟨w.now, i, ·⟩) ++ ofTask i w.log) t' := by
  have hsilent (hsent : ∀ what ∈ told, what.sent = []) :
      eventsIn sent (told.map (⟨w.now, i, ·⟩) ++ ofTask i w.log) =
        eventsIn sent (ofTask i w.log) :=
    eventsIn_append_of_nil (List.forall_mem_map.2 hsent)
  have hhandled {c : Consumer} {e : Event} {due : Nat} {outcome : HandlingOutcome}
      (h : Counted (ofTask i w.log) (.consumer c)) (hs : c.stage = .handling e due outcome) :
      Counted (⟨w.now, i, .handled c.sink.name e outcome⟩ :: ofTask i w.log)
        (.consumer (w.finishHandling i c e outcome).2) := by
    have hhandling : Counted (ofTask i w.log)
        (.consumer { c with stage := .handling e due outcome }) := by
      rw [← hs]
      exact h
    rw [← ofTask_note]
    exact Recorded.counted_handled hhandling outcome
  cases hs with
  | bare k stage told hnil hstage htold =>
    refine ⟨by rw [told_append, ← h.1], ?_⟩
    rw [hsilent fun what hwhat => (Occurrence.views_of_onTheWay
      (Occurrence.views_of_isBare (htold what hwhat)).1).2.2, h.2, published_addAll htold]
  | filters k stage elapsed outcome told hnil hstage htold =>
    refine ⟨by rw [told_append, ← h.1], ?_⟩
    subst htold
    rw [hsilent (List.forall_mem_cons.2 ⟨rfl, List.forall_mem_singleton.2 rfl⟩), h.2]
    simp only [WorkerTally.addAll, List.foldr_cons, List.foldr_nil, WorkerTally.add]
    split <;> rfl
  | waits k hs hb => exact h
  | @publishes k e es hs stage hstage ticket count hholder hdone =>
    have hpublished := h.published e count
    rwa [ofTask_note, ofTask_note] at hpublished
  | @takes c hs e bus parties htake due outcome =>
    have htaken := Recorded.counted_taken h hs e due outcome
    rwa [ofTask_note] at htaken
  | leaves c hs hclosed =>
    exact ⟨h.1, (hsilent (List.forall_mem_singleton.2 rfl)).trans h.2.1, h.2.2.ended⟩
  | handles c hs =>
    obtain ⟨htally, -, heven⟩ := hhandled h hs
    exact ⟨htally, (hsilent (List.forall_mem_singleton.2 rfl)).trans h.2.1, heven⟩
  | perishes c hs =>
    obtain ⟨htally, -, heven⟩ := hhandled h hs
    exact ⟨htally, (hsilent (List.forall_mem_cons.2 ⟨rfl, List.forall_mem_singleton.2 rfl⟩)).trans
      h.2.1, heven⟩

/-- **A stride keeps the counts those that the record tells of.** -/
theorem Recorded.strode (h : Recorded none w) (hs : Strode i w w' t t' told) :
    Recorded none w' := by
  obtain ⟨ht, -, hstrides, htasks, hlog, -, -⟩ := hs
  have hi := (List.getElem?_eq_some_iff.1 ht).1
  refine ⟨fun e he => ?_, fun j u _ hu => ?_⟩
  · rw [htasks, List.length_set]
    rw [hlog] at he
    rcases List.mem_append.1 he with he | he
    · obtain ⟨what, -, rfl⟩ := List.mem_map.1 he
      exact hi
    · exact h.known e he
  · rw [htasks] at hu
    rw [hlog]
    by_cases hj : j = i
    · subst hj
      rw [List.getElem?_set_self hi] at hu
      rw [ofTask_append_self, ← Option.some.inj hu]
      exact (h.counted j t (by simp) ht).strides hstrides
    · rw [List.getElem?_set_ne (Ne.symm hj)] at hu
      rw [ofTask_append_ne hj]
      exact h.counted j u (by simp) hu

/-! ### Nobody dies, nobody comes, nobody looks at the signal -/

/-- Who is alive after a stride was so before. -/
theorem Alive.of_strode (hs : Strode i w w' t t' told) (h : w'.Alive) : w.Alive := by
  intro u hu
  obtain ⟨j, hj⟩ := List.mem_iff_getElem?.1 hu
  by_cases hji : j = i
  · subst hji
    obtain rfl := Option.some.inj (hs.found.symm.trans hj)
    by_contra hdead
    have hover := Task.isOver_of_isDead (Bool.of_not_eq_false hdead)
    simp [hs.going] at hover
  · refine h u (List.mem_of_getElem? (i := j) ?_)
    rw [hs.tasks, List.getElem?_set_ne (Ne.symm hji)]
    exact hj

theorem Alive.of_go {m : Motion} (h : (w.go m).Alive) : w.Alive := by
  cases m with
  | stride task =>
    rcases stride_cases w task with heq | ⟨t, t', told, hs⟩
    · rw [go, heq] at h
      exact h
    · exact of_strode hs h
  | move m => exact of_act (m := m) h

theorem Alive.of_goAll {motions : List Motion} (h : (w.goAll motions).Alive) : w.Alive := by
  induction motions generalizing w with
  | nil => exact h
  | cons m motions ih =>
    rw [goAll_cons] at h
    exact (ih h).of_go

theorem signal_go {m : Motion} (hm : m.isInner = true) : (w.go m).signal = w.signal := by
  cases m with
  | stride task =>
    rcases stride_cases w task with heq | ⟨t, t', told, hs⟩
    · rw [go, heq]
      rfl
    · exact hs.signal
  | move m =>
    refine (signal_act w m).trans ?_
    cases m <;> simp_all [Motion.isInner, Move.isInner, Move.gives]

theorem roster_go {m : Motion} (hm : m.isInner = true) : (w.go m).roster = w.roster := by
  cases m with
  | stride task =>
    rcases stride_cases w task with heq | ⟨t, t', told, hs⟩
    · rw [go, heq]
      rfl
    · obtain ⟨hi, ht⟩ := List.getElem?_eq_some_iff.1 (roster_of_getElem? hs.found)
      change List.map Task.fresh (w.stride task).tasks = w.roster
      rw [hs.tasks, List.map_set, hs.strides.fresh, ← ht]
      exact List.set_getElem_self hi
  | move m =>
    refine (roster_act w m).trans ?_
    cases m <;> simp_all [Motion.isInner, Move.isInner, newcomers]

/-- **Nobody comes and nobody goes.** -/
theorem roster_goAll {motions : List Motion} (hm : ∀ m ∈ motions, m.isInner = true) :
    (w.goAll motions).roster = w.roster := by
  induction motions generalizing w with
  | nil => rfl
  | cons m motions ih =>
    obtain ⟨hm, hmotions⟩ := List.forall_mem_cons.1 hm
    rw [goAll_cons]
    exact (ih (w := w.loose.go m) hmotions).trans (roster_go hm)

/-- Who is a worker stays one. -/
theorem isSome_stageAt_of_roster (h : w'.roster = w.roster) (j : Nat) :
    (w'.stageAt j).isSome = (w.stageAt j).isSome := by
  have hread (w : World) : (w.stageAt j).isSome = (w.roster[j]?.bind Task.worker?).isSome := by
    unfold stageAt roster
    rw [Option.isSome_map, List.getElem?_map]
    rcases w.tasks[j]? with _ | t
    · rfl
    · cases t <;> rfl
  rw [hread, hread, h]

/-! ### A stop -/

/-- A stop changes the signal, and has others polled. -/
theorem stop_changes (w : World) :
    ∃ more, w.stop = { w with signal.value := true, ready := w.ready ++ more } := by
  obtain ⟨more, heq, -⟩ := wakeAll_eq { w with signal.value := true } w.stoppable
  exact ⟨more, heq⟩

theorem isStop_stop (w : World) : w.stop.signal.isStop = true := by
  obtain ⟨more, heq⟩ := stop_changes w
  rw [heq]
  rfl

theorem tasks_stop (w : World) : w.stop.tasks = w.tasks := by
  obtain ⟨more, heq⟩ := stop_changes w
  rw [heq]

theorem roster_stop (w : World) : w.stop.roster = w.roster := by
  unfold roster
  rw [tasks_stop]

theorem log_stop (w : World) : w.stop.log = w.log := by
  obtain ⟨more, heq⟩ := stop_changes w
  rw [heq]

theorem stageAt_stop (w : World) (j : Nat) : w.stop.stageAt j = w.stageAt j :=
  stageAt_congr (by rw [tasks_stop])

/-- The queue of those to poll at a stop does not matter. -/
theorem loose_stop (w : World) : w.loose.stop.loose = w.stop.loose := by
  obtain ⟨more, heq⟩ := stop_changes w
  obtain ⟨more', heq'⟩ := stop_changes w.loose
  rw [heq, heq']
  rfl

/-! ### What is published -/

/-- **A stride publishes one event at most,** and only one of a worker does. -/
theorem Strode.sent (hs : Strode i w w' t t' told) : ∃ es,
    eventsIn sent w'.log = eventsIn sent w.log ++ es ∧
      es.length ≤ (w.stageAt i).isSome.toNat := by
  obtain ⟨ht, -, hstrides, -, hlog, -, -⟩ := hs
  have hsilent (hsent : ∀ what ∈ told, what.sent = []) : ∃ es,
      eventsIn Occurrence.sent w'.log = eventsIn Occurrence.sent w.log ++ es ∧
        es.length ≤ (w.stageAt i).isSome.toNat := by
    refine ⟨[], ?_, Nat.zero_le _⟩
    rw [hlog, List.append_nil]
    exact eventsIn_append_of_nil (List.forall_mem_map.2 hsent)
  generalize w'.bus = bus at hstrides
  generalize w'.admission = admission at hstrides
  cases hstrides with
  | bare k stage told hnil hstage htold =>
    exact hsilent fun what hwhat => (Occurrence.views_of_onTheWay
      (Occurrence.views_of_isBare (htold what hwhat)).1).2.2
  | filters k stage elapsed outcome told hnil hstage htold =>
    subst htold
    exact hsilent (List.forall_mem_cons.2 ⟨rfl, List.forall_mem_singleton.2 rfl⟩)
  | @publishes k e es hs stage hstage ticket count hholder hdone =>
    refine ⟨[e], ?_, ?_⟩
    · rw [hlog]
      change eventsIn Occurrence.sent (_ :: _ :: w.log) = _
      rw [eventsIn_cons, eventsIn_cons]
      exact List.append_nil _
    · rw [stageAt_of_worker ht]
      exact Nat.le_refl 1
  | waits k hs hb => exact hsilent (by simp)
  | takes c hs htake due outcome => exact hsilent (List.forall_mem_singleton.2 rfl)
  | leaves c hs hclosed => exact hsilent (List.forall_mem_singleton.2 rfl)
  | handles c hs => exact hsilent (List.forall_mem_singleton.2 rfl)
  | perishes c hs =>
    exact hsilent (List.forall_mem_cons.2 ⟨rfl, List.forall_mem_singleton.2 rfl⟩)

/-! ### Runs on threads -/

/-- **What holds of a world on threads at every moment,** given what follows for the bus. -/
structure Sustained (n : Nat) (P : List Event → (Nat → List Event) → Bus → Prop) (w : World) :
    Prop where
  kept : ∃ posed lost, Kept posed lost w
  recorded : Recorded none w
  served : Served n P w

namespace Sustained

variable {P : List Event → (Nat → List Event) → Bus → Prop}

theorem of_same (h : Sustained n P w) (hbus : w'.bus = w.bus)
    (hadmission : w'.admission = w.admission) (hlog : w'.log = w.log)
    (htasks : w'.tasks = w.tasks) : Sustained n P w' := by
  obtain ⟨posed, lost, hkept⟩ := h.kept
  exact ⟨⟨posed, lost, hkept.of_same hbus hadmission hlog htasks⟩, h.recorded.congr htasks hlog,
    h.served.of_same hbus htasks hlog⟩

theorem strode (hP : Bus.Follows n P) (h : Sustained n P w) (hs : Strode i w w' t t' told)
    (halive : w'.Alive) : Sustained n P w' := by
  obtain ⟨posed, lost, hkept⟩ := h.kept
  obtain ⟨posed', hkept'⟩ := hkept.strode hs
  exact ⟨⟨posed', lost, hkept'⟩, h.recorded.strode hs, h.served.strode hP hkept hs halive⟩

/-- **Before a stop** the tasks make strides, and time passes. -/
theorem go (hP : Bus.Follows n P) (h : Sustained n P w) {m : Motion} (hm : m.isFree = true)
    (halive : (w.go m).Alive) : Sustained n P (w.go m) := by
  cases m with
  | stride task =>
    rcases stride_cases w task with heq | ⟨t, t', told, hs⟩
    · rw [World.go, heq]
      exact h.of_same rfl rfl rfl rfl
    · exact of_same (strode hP h hs halive) rfl rfl rfl rfl
  | move m =>
    cases m with
    | clock moment => exact h.of_same rfl rfl rfl rfl
    | fire moment =>
      obtain ⟨more, heq, -⟩ := wakeAll_eq
        { w with now := moment, timers := w.timers.filter fun t => moment < t.1 }
        ((w.timers.filter fun t => t.1 ≤ moment).map (·.2))
      change Sustained n P (w.fire moment).loose
      unfold fire
      rw [heq]
      exact h.of_same rfl rfl rfl rfl
    | _ => simp [Motion.isFree] at hm

theorem goAll (hP : Bus.Follows n P) (h : Sustained n P w) {motions : List Motion}
    (hm : ∀ m ∈ motions, m.isFree = true) (halive : (w.goAll motions).Alive) :
    Sustained n P (w.goAll motions) := by
  induction motions generalizing w with
  | nil => exact h.of_same rfl rfl rfl rfl
  | cons m motions ih =>
    obtain ⟨hm, hmotions⟩ := List.forall_mem_cons.1 hm
    rw [goAll_cons] at halive ⊢
    have hloose : Sustained n P w.loose := h.of_same rfl rfl rfl rfl
    exact ih (hloose.go hP hm halive.of_goAll) hmotions halive

/-- **At the stop** everything has gone to everybody. -/
theorem stop (h : Sustained n (Bus.Wide n) w) :
    Sustained n (Bus.Ebbing n (eventsIn sent w.log).length) w.stop := by
  obtain ⟨more, heq⟩ := stop_changes w
  rw [heq]
  exact of_same (w := w) ⟨h.kept, h.recorded, h.served.bus.ebbing, h.served.consumers⟩
    rfl rfl rfl rfl

/-- **After a stop** tasks are polled as well, and find the stop. They publish nothing then. -/
theorem poll {prompt : Nat} (h : Sustained n (Bus.Ebbing n prompt) w)
    (hstop : w.signal.isStop = true) (i : Nat) :
    Sustained n (Bus.Ebbing n prompt) (w.act (.poll i)) ∧
      eventsIn sent (w.act (.poll i)).log = eventsIn sent w.log := by
  obtain ⟨posed, lost, hkept⟩ := h.kept
  have hrecorded := h.recorded.act (.poll i)
  have hw : Sustained n (Bus.Ebbing n prompt) { w with ready := w.ready.erase i } :=
    h.of_same rfl rfl rfl rfl
  rcases poll_stop_cases (w := { w with ready := w.ready.erase i }) (i := i) hstop
    (hkept.ours i) with heq | ⟨t, t', told, hs⟩
  · rw [act, heq]
    exact ⟨hw, rfl⟩
  · obtain ⟨posed, lost, hkept⟩ := hw.kept
    refine ⟨⟨hkept.halted hs, hrecorded, hw.served.halted hkept.ours hs⟩, ?_⟩
    rw [act, hs.log]
    exact eventsIn_append_of_nil (List.forall_mem_map.2 fun what hwhat =>
      (Occurrence.views_of_onTheWay (hs.silent (hkept.ours i) what hwhat).1).2.2)

/-- **After a stop** only strides of workers publish, one event each at most. -/
theorem go_stopped {prompt : Nat} (h : Sustained n (Bus.Ebbing n prompt) w)
    (hstop : w.signal.isStop = true) {m : Motion} (hm : m.isInner = true)
    (halive : (w.go m).Alive) :
    Sustained n (Bus.Ebbing n prompt) (w.go m) ∧
      ∃ es, eventsIn sent (w.go m).log = eventsIn sent w.log ++ es ∧
        es.length ≤ (m.strider?.toList.filter fun j => (w.stageAt j).isSome).length := by
  cases m with
  | stride task =>
    refine ⟨h.go (Bus.Ebbing.follows n prompt) rfl halive, ?_⟩
    rcases stride_cases w task with heq | ⟨t, t', told, hs⟩
    · rw [World.go, heq]
      exact ⟨[], (List.append_nil _).symm, Nat.zero_le _⟩
    · obtain ⟨es, hes, hle⟩ := hs.sent
      refine ⟨es, hes, hle.trans ?_⟩
      cases hsome : (w.stageAt task).isSome <;> simp [Motion.strider?, hsome]
  | move m =>
    have hnone (hsame : eventsIn sent (w.go (.move m)).log = eventsIn sent w.log) :
        ∃ es, eventsIn sent (w.go (.move m)).log = eventsIn sent w.log ++ es ∧
          es.length ≤ 0 := ⟨[], by rw [hsame, List.append_nil], Nat.le_refl 0⟩
    cases m with
    | poll i =>
      obtain ⟨hsustained, hsent⟩ := h.poll hstop i
      exact ⟨hsustained.of_same rfl rfl rfl rfl, hnone hsent⟩
    | clock moment => exact ⟨h.go (Bus.Ebbing.follows n prompt) rfl halive, hnone rfl⟩
    | fire moment =>
      refine ⟨h.go (Bus.Ebbing.follows n prompt) rfl halive, hnone ?_⟩
      exact congrArg (eventsIn sent) (act_outside w (m := .fire moment) (by simp)).log
    | _ => simp [Motion.isInner, Move.isInner] at hm

/-- **What is published after a stop** is no more than there are strides of workers. -/
theorem goAll_stopped {prompt : Nat} (h : Sustained n (Bus.Ebbing n prompt) w)
    (hstop : w.signal.isStop = true) {motions : List Motion} (hm : ∀ m ∈ motions, m.isInner = true)
    (halive : (w.goAll motions).Alive) :
    Sustained n (Bus.Ebbing n prompt) (w.goAll motions) ∧
      ∃ es, eventsIn sent (w.goAll motions).log = eventsIn sent w.log ++ es ∧
        es.length ≤
          ((motions.filterMap Motion.strider?).filter fun j => (w.stageAt j).isSome).length := by
  induction motions generalizing w with
  | nil => exact ⟨h.of_same rfl rfl rfl rfl, [], (List.append_nil _).symm, Nat.zero_le _⟩
  | cons m motions ih =>
    obtain ⟨hm, hmotions⟩ := List.forall_mem_cons.1 hm
    rw [goAll_cons] at halive ⊢
    have hloose : Sustained n (Bus.Ebbing n prompt) w.loose := h.of_same rfl rfl rfl rfl
    obtain ⟨hnext, es, hes, hle⟩ := hloose.go_stopped hstop hm halive.of_goAll
    obtain ⟨hlast, es', hes', hle'⟩ :=
      ih hnext (by rw [signal_go hm]; exact hstop) hmotions halive
    refine ⟨hlast, es ++ es', ?_, ?_⟩
    · rw [hes', hes, List.append_assoc]
      rfl
    · have hworkers : (fun j => ((w.loose.go m).stageAt j).isSome) =
          fun j => (w.stageAt j).isSome :=
        funext fun j => isSome_stageAt_of_roster (roster_go (w := w.loose) hm) j
      rw [hworkers] at hle'
      have hsplit : (m :: motions).filterMap Motion.strider? =
          m.strider?.toList ++ motions.filterMap Motion.strider? := by
        cases m <;> rfl
      rw [hsplit, List.filter_append, List.length_append, List.length_append]
      exact Nat.add_le_add hle hle'

end Sustained

end World
end StatusRelay
