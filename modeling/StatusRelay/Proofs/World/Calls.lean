/-
# Which fetch came to what

The fetches of a provider are numbered as they begin, whichever worker begins them. No number is
recorded, but it can be read off the record: a fetch that begins has as many before it as have begun
of the same provider. Every fetch that ends has come to what the provider says for its number.

| part of the world | agrees with the record |
| --- | --- |
| a provider | it counts the fetches that have begun |
| a worker that fetches | the fetch comes to what the provider says for the number of the last |
-/

import StatusRelay.Proofs.World.Quiet
import StatusRelay.Proofs.World.Roster
import StatusRelay.Proofs.World.Tally
import Mathlib.Data.List.Induction

namespace StatusRelay

namespace Occurrence

/-- Whether a fetch begins. -/
def isBegin : Occurrence → Bool
  | fetchBegan => true
  | _ => false

/-- What a fetch came to that has ended. -/
def outcome? : Occurrence → Option FetchOutcome
  | fetchEnded _ _ outcome => some outcome
  | _ => none

/-- What happens between two fetches. -/
theorem plain_of_inFlightChange {what : Occurrence} (h : what.inFlightChange = 0) :
    what.isBegin = false ∧ what.outcome? = none := by
  cases what <;> simp_all [inFlightChange, isBegin, outcome?]

end Occurrence

/-- What a fetch of a provider comes to, given its number. Where there is no provider there is
nothing to fetch. -/
def outcomeOf (ps : List Provider) (s n : Nat) : FetchOutcome :=
  ((ps[s]?).map fun p => (p.fetch n).outcome).getD (.events [])

/-- The number of the first fetch of a provider that is recorded. -/
def firstCall (ps : List Provider) (s : Nat) : Nat := ((ps[s]?).map (·.calls)).getD 0

namespace World

open Occurrence (Entry)

/-- The place of the provider that a task polls. -/
def sourceOf (w : World) (i : Nat) : Nat :=
  (((w.tasks[i]?).bind Task.worker?).map (·.source)).getD 0

/-- How many fetches of a provider have begun in a record, given what each task polls. -/
def begun (source : Nat → Nat) (s : Nat) (log : List Entry) : Nat :=
  log.countP fun e => e.what.isBegin && source e.task == s

/-- The number of the fetch that a task has begun last. -/
def callOf (ps : List Provider) (source : Nat → Nat) (i : Nat) : List Entry → Nat
  | [] => 0
  | e :: log =>
    if e.what.isBegin && e.task == i then firstCall ps (source i) + begun source (source i) log
    else callOf ps source i log

/-- The fetches of a task that came to their end, by their numbers, and what they came to; the
latest is the first. -/
def completed (ps : List Provider) (source : Nat → Nat) (i : Nat) :
    List Entry → List (Nat × FetchOutcome)
  | [] => []
  | e :: log =>
    match if e.task = i then e.what.outcome? else none with
    | some outcome => (callOf ps source i log, outcome) :: completed ps source i log
    | none => completed ps source i log

variable {ps : List Provider} {source : Nat → Nat} {more : List Entry}

/-- Nothing is told of a fetch. -/
theorem completed_append (ps : List Provider) (source : Nat → Nat) (log : List Entry)
    (h : ∀ e ∈ more, e.what.isBegin = false ∧ e.what.outcome? = none) (s j : Nat) :
    begun source s (more ++ log) = begun source s log ∧
      callOf ps source j (more ++ log) = callOf ps source j log ∧
        completed ps source j (more ++ log) = completed ps source j log := by
  induction more with
  | nil => exact ⟨rfl, rfl, rfl⟩
  | cons e more ih =>
    obtain ⟨hbegin, hend⟩ := h e List.mem_cons_self
    obtain ⟨hbegun, hcall, hcompleted⟩ := ih fun e he => h e (List.mem_cons_of_mem _ he)
    refine ⟨?_, ?_, ?_⟩
    · unfold begun at hbegun ⊢
      rw [List.cons_append, List.countP_cons, hbegun]
      simp [hbegin]
    · simp [callOf, hbegin, hcall]
    · simp [completed, hend, hcompleted]

/-- What the fetches of a record came to, the latest first. -/
def outcomes (log : List Entry) : List FetchOutcome := log.filterMap (·.what.outcome?)

theorem outcomes_cons (e : Entry) (log : List Entry) :
    outcomes (e :: log) = e.what.outcome?.toList ++ outcomes log := by
  unfold outcomes
  rw [List.filterMap_cons]
  cases e.what.outcome? <;> rfl

/-- The fetches of a task are those that its record tells of. -/
theorem outcomes_ofTask (ps : List Provider) (source : Nat → Nat) (i : Nat) (log : List Entry) :
    outcomes (ofTask i log) = (completed ps source i log).map (·.2) := by
  induction log with
  | nil => rfl
  | cons e log ih =>
    unfold ofTask at ih ⊢
    by_cases he : e.task = i
    · rw [List.filter_cons_of_pos (by simpa using he), outcomes_cons, ih]
      simp only [completed, he, if_true]
      cases e.what.outcome? <;> rfl
    · rw [List.filter_cons_of_neg (by simpa using he), ih]
      simp [completed, he]

/-- The faults of a task are its fetches that crashed. -/
theorem countP_isFault (ps : List Provider) (source : Nat → Nat) (i : Nat) (log : List Entry) :
    (ofTask i log).countP (·.what.isFault) = (completed ps source i log).countP (·.2.isFault) := by
  have hmap := List.countP_map (p := FetchOutcome.isFault) (f := fun f : Nat × FetchOutcome => f.2)
    (l := completed ps source i log)
  rw [← outcomes_ofTask, outcomes, List.countP_filterMap] at hmap
  refine Eq.trans (congrArg (List.countP · (ofTask i log)) (funext fun e => ?_)) hmap
  cases e.what <;> rfl

/-- **The record tells which fetch came to what,** and providers and workers agree with it, but for
a worker that is being polled. -/
structure Numbered (ps : List Provider) (source : Nat → Nat) (who : Option Nat) (w : World) :
    Prop where
  asked : ∀ s, w.providers[s]? =
    (ps[s]?).map fun p : Provider => { p with calls := p.calls + begun source s w.log }
  fetching : ∀ j since due outcome, who ≠ some j →
    w.stageAt j = some (.fetching since due outcome) →
    outcome = outcomeOf ps (source j) (callOf ps source j w.log)
  ended : ∀ j, ∀ f ∈ completed ps source j w.log, f.2 = outcomeOf ps (source j) f.1

/-! ### What asks no provider -/

variable {w w' : World} {i : Nat} {who : Option Nat}

/-- A worker that is new has not begun. -/
theorem Outside.stageAt_new {m : Move} (ho : Outside m w w') (hi : w.tasks.length ≤ i)
    {stage : Stage} (hs : w'.stageAt i = some stage) : stage = .ready := by
  unfold stageAt at hs
  rw [ho.tasks, List.getElem?_append_right hi] at hs
  rcases ht : (w.newcomers m)[i - w.tasks.length]? with _ | t
  · simp [ht] at hs
  · have hfresh := fresh_of_mem_newcomers (List.mem_of_getElem? ht)
    rw [ht, ← hfresh] at hs
    cases t with
    | worker k => exact (Option.some.inj hs).symm
    | consumer c => simp [Task.fresh, Task.worker?] at hs
    | publisher event stage => simp [Task.fresh, Task.worker?] at hs

theorem providers_withBus (w : World) (bus : Bus) (parties : List Wake) :
    (w.withBus bus parties).providers = w.providers := by
  obtain ⟨more, h⟩ := withBus_eq w bus parties
  rw [h]

theorem providers_setTimer (w : World) (task due : Nat) :
    (w.setTimer task due).providers = w.providers := by
  obtain ⟨more, timers, h⟩ := setTimer_eq w task due
  rw [h]

theorem providers_drive (w : World) (i : Nat) (event : Event) :
    (w.drive i event).1.providers = w.providers := by
  unfold drive
  split
  · split <;> exact providers_withBus w _ _
  · rfl

theorem providers_publish (w : World) (i : Nat) (k : Worker) (pending : List Event) :
    (w.publish i k pending).providers = w.providers := by
  induction pending generalizing w k with
  | nil => exact providers_setTimer _ _ _
  | cons e es ih =>
    have hd := providers_drive w i e
    unfold publish
    split
    · rename_i h
      rw [h] at hd
      exact hd
    · rename_i h
      rw [h] at hd
      simp only
      split
      · exact (providers_setTimer _ _ _).trans hd
      · exact (ih _ _).trans hd

theorem providers_sift (w : World) (i : Nat) (k : Worker) (found : List Event) :
    (w.sift i k found).providers = w.providers := by
  unfold sift
  simp only
  split
  · exact providers_setTimer _ _ _
  · exact providers_publish _ _ _ _

theorem providers_endConsumer (w : World) (i : Nat) (c : Consumer) (stage : ConsumerStage) :
    (w.endConsumer i c stage).providers = w.providers := providers_withBus _ _ _

theorem providers_receive (w : World) (i : Nat) (c : Consumer) (most : Nat) :
    (w.receive i c most).providers = w.providers := by
  induction most generalizing w c with
  | zero => rfl
  | succ most ih =>
    unfold receive
    split
    · rfl
    · exact providers_endConsumer _ _ _ _
    · have hb := providers_withBus w
      simp only
      split
      · split
        · exact (providers_endConsumer _ _ _ _).trans (hb _ _)
        · exact (ih _ _).trans (hb _ _)
      · exact (providers_setTimer _ _ _).trans (hb _ _)

theorem providers_pollConsumer (w : World) (i : Nat) (c : Consumer) :
    (w.pollConsumer i c).providers = w.providers := by
  unfold pollConsumer
  split
  · exact providers_endConsumer _ _ _ _
  · split
    · exact providers_receive _ _ _ _
    · split
      · simp only
        split
        · exact providers_endConsumer _ _ _ _
        · exact providers_receive _ _ _ _
      · rfl
    · rfl
    · rfl

theorem providers_pollPublisher (w : World) (i : Nat) (event : Event) (stage : PublisherStage) :
    (w.pollPublisher i event stage).providers = w.providers := by
  have hgo : ∀ w : World, (pollPublisher.go i event w).providers = w.providers := by
    intro w
    have hd := providers_drive w i event
    unfold pollPublisher.go
    split
    · rename_i h
      rw [h] at hd
      exact hd
    · rename_i h
      rw [h] at hd
      exact hd
  cases stage with
  | new => exact hgo _
  | waiting => exact hgo w
  | _ => rfl

namespace Numbered

/-- Something happens to a task that is not a fetch. -/
theorem append_log (more : List Entry) (h : Numbered ps source who w)
    (hproviders : w'.providers = w.providers) (hlog : w'.log = more ++ w.log)
    (hmore : ∀ e ∈ more, e.what.isBegin = false ∧ e.what.outcome? = none)
    (hstage : ∀ j since due outcome, who ≠ some j →
      w'.stageAt j = some (.fetching since due outcome) → w.stageAt j = w'.stageAt j) :
    Numbered ps source who w' := by
  have hsame := completed_append ps source w.log hmore
  refine ⟨fun s => ?_, fun j since due outcome hj hs => ?_, fun j => ?_⟩
  · rw [hproviders, hlog, (hsame s 0).1]
    exact h.asked s
  · rw [hlog, (hsame 0 j).2.1]
    exact h.fetching j since due outcome hj ((hstage j since due outcome hj hs).trans hs)
  · rw [hlog, (hsame 0 j).2.2]
    exact h.ended j

theorem congr (h : Numbered ps source who w) (hproviders : w'.providers = w.providers)
    (htasks : w'.tasks = w.tasks) (hlog : w'.log = w.log) : Numbered ps source who w' :=
  h.append_log [] hproviders hlog (by simp) fun _ _ _ _ _ _ =>
    (stageAt_congr (by rw [htasks])).symm

/-- A task begins to be polled. -/
theorem enter (h : Numbered ps source none w) (i : Nat) : Numbered ps source (some i) w :=
  ⟨h.asked, fun j since due outcome _ hs => h.fetching j since due outcome (by simp) hs, h.ended⟩

/-- A task has been polled. -/
theorem leave (h : Numbered ps source (some i) w)
    (hi : ∀ since due outcome, w.stageAt i = some (.fetching since due outcome) →
      outcome = outcomeOf ps (source i) (callOf ps source i w.log)) :
    Numbered ps source none w := by
  refine ⟨h.asked, fun j since due outcome _ hs => ?_, h.ended⟩
  by_cases hj : j = i
  · exact hj ▸ hi since due outcome (hj ▸ hs)
  · exact h.fetching j since due outcome (fun heq => hj (Option.some.inj heq).symm) hs

/-- What is quiet tells of no fetch. -/
theorem quiet (h : Numbered ps source (some i) w) (hq : Quiet i w w')
    (hproviders : w'.providers = w.providers) : Numbered ps source (some i) w' := by
  obtain ⟨more, hlog, hmore⟩ := hq.log
  refine h.append_log more hproviders hlog
    (fun e he => Occurrence.plain_of_inFlightChange (hmore e he).2) fun j _ _ _ hj _ => ?_
  exact (stageAt_congr (hq.others j fun hji => hj (congrArg some hji.symm))).symm

/-- A worker that is not fetching has been polled, and was quiet. -/
theorem rest (h : Numbered ps source (some i) w) (hq : Quiet i w w')
    (hproviders : w'.providers = w.providers)
    (hs : ∀ since due outcome, w'.stageAt i ≠ some (.fetching since due outcome)) :
    Numbered ps source none w' :=
  (h.quiet hq hproviders).leave fun since due outcome hfetching =>
    absurd hfetching (hs since due outcome)

theorem withPermits (h : Numbered ps source who w) (permits : Permits) (given : Option Nat) :
    Numbered ps source who (w.withPermits permits given) := by
  obtain ⟨more, hw⟩ := withPermits_eq w permits given
  rw [hw]
  exact h.congr rfl rfl rfl

/-! ### Workers -/

section Workers

variable {k : Worker}

theorem endWorker (stage : Stage) (h : Numbered ps source (some i) w) (hi : i < w.tasks.length)
    (hstage : stage.isOver = true) : Numbered ps source none (w.endWorker i k stage) :=
  h.rest (Quiet.endWorker w k stage) rfl fun since due outcome hs => by
    rw [stageAt_endWorker hi] at hs
    obtain rfl := Option.some.inj hs
    simp [Stage.isOver] at hstage

theorem sift (h : Numbered ps source (some i) w) (hi : i < w.tasks.length) (found : List Event) :
    Numbered ps source none (w.sift i k found) :=
  h.rest (Quiet.sift w k found) (providers_sift w i k found) fun since due outcome hs => by
    rcases stageAt_sift hi k found with ⟨rest, h⟩ | ⟨due', h⟩ <;> simp [h] at hs

theorem publish (h : Numbered ps source (some i) w) (hi : i < w.tasks.length)
    (pending : List Event) : Numbered ps source none (w.publish i k pending) :=
  h.rest (Quiet.publish w k pending) (providers_publish w i k pending)
    fun since due outcome hs => by
      rcases stageAt_publish hi k pending with ⟨rest, h⟩ | ⟨due', h⟩ <;> simp [h] at hs

/-- **A fetch comes to its end,** and to what the provider says for its number. -/
theorem finishFetch (since : Nat) {outcome : FetchOutcome} (h : Numbered ps source (some i) w)
    (hi : i < w.tasks.length)
    (houtcome : outcome = outcomeOf ps (source i) (callOf ps source i w.log)) :
    Numbered ps source none (w.finishFetch i k since outcome) := by
  have hw : Numbered ps source (some i)
      (w.releasePermit.note i (.fetchEnded k.name (w.now - since) outcome)) := by
    have hp : Numbered ps source (some i) w.releasePermit := h.withPermits _ _
    refine ⟨hp.asked, fun j since due o hj hs => hp.fetching j since due o hj hs, fun j f hf => ?_⟩
    replace hf : f ∈ completed ps source j (_ :: w.releasePermit.log) := hf
    by_cases hj : i = j
    · subst hj
      rcases List.mem_cons.1 (by simpa [completed, Occurrence.outcome?] using hf) with rfl | hf
      · rw [log_releasePermit]
        exact houtcome
      · exact hp.ended i f hf
    · exact hp.ended j f (by simpa [completed, hj] using hf)
  have hi' : i < w.releasePermit.tasks.length := by
    rw [tasks_releasePermit]
    exact hi
  unfold World.finishFetch
  cases outcome with simp only
  | events es => exact sift hw hi' es
  | crashed crash => exact sift hw hi' []
  | deadly => exact endWorker .died hw hi' rfl

/-- **A fetch that begins has the next number** of its provider. -/
theorem beginFetch (h : Numbered ps source (some i) w) (hi : i < w.tasks.length)
    (hk : source i = k.source) : Numbered ps source none (w.beginFetch i k) := by
  have hcall : callOf ps source i (w.note i .fetchBegan).log =
      firstCall ps k.source + begun source k.source w.log := by
    rw [← hk]
    simp [World.note, callOf, Occurrence.isBegin]
  have hbegun : ∀ s, begun source s (w.note i .fetchBegan).log =
      begun source s w.log + if s = k.source then 1 else 0 := by
    intro s
    unfold begun World.note
    rw [List.countP_cons, hk]
    by_cases hs : s = k.source <;> simp [Occurrence.isBegin, hs, Ne.symm]
  have hfetching : ∀ j since due outcome, some i ≠ some j →
      w.stageAt j = some (.fetching since due outcome) →
      outcome = outcomeOf ps (source j) (callOf ps source j (w.note i .fetchBegan).log) := by
    intro j since due outcome hj hs
    have hne : ¬ i = j := fun hij => hj (congrArg some hij)
    have := h.fetching j since due outcome hj hs
    simpa [World.note, callOf, hne] using this
  have hended : ∀ j, ∀ f ∈ completed ps source j (w.note i .fetchBegan).log,
      f.2 = outcomeOf ps (source j) f.1 := by
    intro j f hf
    refine h.ended j f ?_
    simpa [World.note, completed, Occurrence.outcome?] using hf
  have hprovider := h.asked k.source
  unfold World.beginFetch
  rcases hps : ps[k.source]? with _ | p
  · rw [hps, Option.map_none] at hprovider
    -- Nobody is asked, so the counts of the others stay as they are.
    have hw : Numbered ps source (some i) (w.note i .fetchBegan) := by
      refine ⟨fun s => ?_, hfetching, hended⟩
      rw [hbegun]
      by_cases hs : s = k.source
      · rw [hs, hps]
        exact hprovider
      · rw [if_neg hs]
        exact h.asked s
    have hnone : (w.note i .fetchBegan).providers[k.source]? = none := hprovider
    simp only [hnone]
    refine hw.finishFetch _ hi ?_
    rw [hk]
    simp [outcomeOf, hps]
  · rw [hps, Option.map_some] at hprovider
    have hsome : (w.note i .fetchBegan).providers[k.source]? =
      some { p with calls := p.calls + begun source k.source w.log } := hprovider
    have houtcome : (p.fetch (p.calls + begun source k.source w.log)).outcome =
        outcomeOf ps (source i) (callOf ps source i (w.note i .fetchBegan).log) := by
      rw [hcall, hk]
      simp [outcomeOf, firstCall, hps]
    have hw : Numbered ps source (some i) { w.note i .fetchBegan with
        providers := w.providers.set k.source
          { p with calls := p.calls + begun source k.source w.log + 1 } } := by
      refine ⟨fun s => ?_, hfetching, hended⟩
      change (w.providers.set _ _)[s]? = (ps[s]?).map fun p : Provider =>
        { p with calls := p.calls + begun source s (w.note i .fetchBegan).log }
      rw [hbegun]
      by_cases hs : s = k.source
      · subst hs
        rw [List.getElem?_set_self (List.getElem?_eq_some_iff.1 hprovider).1, hps, if_pos rfl]
        rfl
      · rw [List.getElem?_set_ne (Ne.symm hs), if_neg hs]
        exact h.asked s
    simp only [hsome]
    split
    · exact hw.finishFetch _ hi houtcome
    · refine leave (hw.quiet ((Quiet.put _ _).trans (Quiet.setTimer _ _ _))
        (providers_setTimer _ _ _)) fun since due outcome hs => ?_
      rw [stageAt_setTimer, stageAt_put (by exact hi)] at hs
      rw [log_setTimer]
      injection hs with hs
      injection hs with _ _ hs
      rw [← hs]
      exact houtcome

theorem askPermit (h : Numbered ps source (some i) w) (hi : i < w.tasks.length)
    (hk : source i = k.source) : Numbered ps source none (w.askPermit i k) := by
  have hw := h.quiet (Quiet.note w .asked rfl) rfl
  unfold World.askPermit
  simp only
  split
  · exact endWorker .cancelled hw hi rfl
  · split
    · exact beginFetch (hw.congr rfl rfl rfl) hi hk
    · have hjoined : Numbered ps source (some i)
          { w.note i .asked with permits := (w.note i .asked).permits.join i } :=
        hw.congr rfl rfl rfl
      refine hjoined.rest (Quiet.put _ _) rfl fun since due outcome hs => ?_
      rw [stageAt_put (by exact hi)] at hs
      simp at hs

theorem stopWorker (h : Numbered ps source (some i) w) (hi : i < w.tasks.length) :
    Numbered ps source none (w.stopWorker i k) := by
  unfold World.stopWorker
  cases k.stage with simp only
  | queued =>
    obtain ⟨more, heq⟩ := withPermits_eq w (w.permits.leave i).1 (w.permits.leave i).2
    exact endWorker .cancelled (h.withPermits _ _) (by rw [heq]; exact hi) rfl
  | fetching since due outcome =>
    have hp : Numbered ps source (some i) w.releasePermit := h.withPermits _ _
    have hw : Numbered ps source (some i) (w.releasePermit.note i .fetchAbandoned) :=
      hp.append_log [⟨_, i, .fetchAbandoned⟩] rfl rfl
        (by simp [Occurrence.isBegin, Occurrence.outcome?]) fun _ _ _ _ _ _ => rfl
    exact endWorker .cancelled hw (by simpa [World.note, tasks_releasePermit] using hi) rfl
  | publishing pending =>
    have hcancel := Quiet.cancelPublish (i := i) w
    exact endWorker .cancelled (h.quiet hcancel (providers_withBus _ _ _))
      (hcancel.length.symm ▸ hi) rfl
  | ready => exact endWorker .cancelled h hi rfl
  | sleeping due => exact endWorker .cancelled h hi rfl
  | cancelled => exact endWorker .cancelled h hi rfl
  | died => exact endWorker .cancelled h hi rfl

theorem pollWorker (h : Numbered ps source none w) (ht : w.tasks[i]? = some (.worker k))
    (hk : source i = k.source) : Numbered ps source none (w.pollWorker i k) := by
  have hi := (List.getElem?_eq_some_iff.1 ht).1
  have hw := h.enter i
  have hstage := stageAt_of_worker ht
  unfold World.pollWorker
  split
  · exact hw.stopWorker hi
  · generalize k.stage = stage at hstage
    cases stage with simp only
    | ready => exact hw.askPermit hi hk
    | queued =>
      split
      · exact endWorker .cancelled hw hi rfl
      · split
        · exact beginFetch (hw.congr rfl rfl rfl) hi hk
        · exact h
    | fetching since due outcome =>
      split
      · exact hw.finishFetch since hi (h.fetching i since due outcome (by simp) hstage)
      · exact h
    | publishing pending => exact hw.publish hi pending
    | sleeping due =>
      split
      · exact hw.askPermit hi hk
      · exact h
    | cancelled => exact h
    | died => exact h

end Workers

/-! ### Runs -/

theorem poll (h : Numbered ps source none w)
    (hsource : ∀ i k, w.tasks[i]? = some (.worker k) → source i = k.source) (i : Nat) :
    Numbered ps source none (w.poll i) := by
  unfold World.poll
  rcases ht : w.tasks[i]? with _ | t
  · exact h
  · simp only
    split
    · exact h
    · have hother : t.worker? = none → ∀ {w' : World}, (w.stageAt i = none → w'.stageAt i = none) →
          Quiet i w w' → w'.providers = w.providers → Numbered ps source none w' := by
        intro hworker w' hs hq hproviders
        refine (h.enter i).rest hq hproviders fun since due outcome hfetching => ?_
        rw [hs (stageAt_of_other fun t' ht' => by rwa [← Option.some.inj (ht.symm.trans ht')])]
          at hfetching
        simp at hfetching
      cases t with
      | worker k => exact h.pollWorker ht (hsource i k ht)
      | consumer c =>
        have hidle := Idle.pollConsumer (i := i) w c
        exact hother rfl hidle.stage hidle.toQuiet (providers_pollConsumer w i c)
      | publisher event stage =>
        exact hother rfl (fun hs => stageAt_pollPublisher hs event stage)
          (Quiet.pollPublisher w event stage) (providers_pollPublisher w i event stage)

/-- Who is new does not fetch. -/
theorem outside {m : Move} (h : Numbered ps source none w) (ho : Outside m w w') :
    Numbered ps source none w' := by
  refine h.append_log [] ho.providers ho.log (by simp) fun j since due outcome _ hs => ?_
  by_cases hj : j < w.tasks.length
  · exact stageAt_congr (by rw [ho.tasks, List.getElem?_append_left hj])
  · exact absurd (ho.stageAt_new (Nat.le_of_not_lt hj) hs) (by simp)

theorem initial (limit : Nat) (capacity : Option Nat) (ps : List Provider) (source : Nat → Nat) :
    Numbered ps source none (World.new limit capacity ps) :=
  ⟨fun s => by simp [World.new, begun], fun j since due outcome _ hs => by
    simp [World.new, stageAt] at hs, fun j f hf => by simp [World.new, completed] at hf⟩

end Numbered

/-- What a worker polls stays. -/
theorem source_of_act (w : World) (m : Move) {k : Worker} (h : w.tasks[i]? = some (.worker k)) :
    ∃ k', (w.act m).tasks[i]? = some (.worker k') ∧ k'.source = k.source := by
  have hroster : (w.act m).roster[i]? = some (.worker k.fresh) := by
    rw [roster_act]
    rw [List.getElem?_append_left]
    · exact roster_of_getElem? h
    · exact (List.getElem?_eq_some_iff.1 (roster_of_getElem? h)).1
  obtain ⟨t, ht, hfresh⟩ := getElem?_of_roster hroster
  cases t with
  | worker k' =>
    have hsame : k'.fresh = k.fresh := Task.worker.inj hfresh
    have hsource := congrArg Worker.source hsame
    exact ⟨k', ht, hsource⟩
  | consumer c => simp [Task.fresh] at hfresh
  | publisher event stage => simp [Task.fresh] at hfresh

theorem sourceOf_eq {k : Worker} (h : w.tasks[i]? = some (.worker k)) :
    w.sourceOf i = k.source := by
  unfold sourceOf
  rw [h]
  rfl

/-- **After every run the record tells which fetch came to what.** -/
theorem Numbered.run (limit : Nat) (capacity : Option Nat) (ps : List Provider)
    (moves : List Move) : Numbered ps ((World.new limit capacity ps).run moves).sourceOf none
      ((World.new limit capacity ps).run moves) := by
  -- The places are those at the end of the run, which are right at every moment of it.
  suffices hall : ∀ source : Nat → Nat, (∀ i k,
      ((World.new limit capacity ps).run moves).tasks[i]? = some (.worker k) →
        source i = k.source) →
      Numbered ps source none ((World.new limit capacity ps).run moves) from
    hall _ fun i k hk => sourceOf_eq hk
  intro source
  induction moves using List.reverseRecOn with
  | nil => exact fun _ => Numbered.initial limit capacity ps source
  | append_singleton moves m ih =>
    rw [run_concat]
    intro hsource
    have hbefore : ∀ i k, ((World.new limit capacity ps).run moves).tasks[i]? = some (.worker k) →
        source i = k.source := by
      intro i k hk
      obtain ⟨k', hk', hs⟩ := source_of_act _ m hk
      exact (hsource i k' hk').trans hs
    have h := ih hbefore
    by_cases hp : ∃ i, m = .poll i
    · obtain ⟨i, rfl⟩ := hp
      have herased : Numbered ps source none { (World.new limit capacity ps).run moves with
          ready := ((World.new limit capacity ps).run moves).ready.erase i } := h.congr rfl rfl rfl
      exact herased.poll hbefore i
    · exact h.outside (act_outside _ (not_exists.1 hp))

end World
end StatusRelay
