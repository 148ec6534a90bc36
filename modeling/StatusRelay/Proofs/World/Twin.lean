/-
# Two worlds with the same course

Let two worlds have the same providers, but that in one of them some of the fetches that crash are
mended, and let the same be done to both. Then they never differ but in these fetches:

| part of the world | in the two worlds |
| --- | --- |
| time, permits, signal, keys, bus, queue of tasks, timers | the same |
| a worker | the same, but for its faults, and the end that its fetch will come to |
| a consumer, a publisher | the same |
| the record | the same, but for the ends of fetches that were mended |

So whatever depends on what is the same takes the same course. Each function that a poll goes
through keeps two worlds `Twin`, and so does everything that is done from outside.
-/

import StatusRelay.Proofs.World.Mending
import StatusRelay.Proofs.World.Moves

namespace StatusRelay
namespace World

open Occurrence (Entry)

/-- **Two worlds that differ in nothing but in fetches that were mended.** -/
structure Twin (replaced : Nat → Nat → Bool) (w w' : World) : Prop where
  now : w'.now = w.now
  permits : w'.permits = w.permits
  signal : w'.signal = w.signal
  admission : w'.admission = w.admission
  bus : w'.bus = w.bus
  providers : w'.providers = mendAll replaced w.providers
  runs : w'.runs = w.runs
  tasks : List.Forall₂ Task.Mends w.tasks w'.tasks
  ready : w'.ready = w.ready
  timers : w'.timers = w.timers
  log : List.Forall₂ Entry.Mends w.log w'.log

namespace Twin

variable {replaced : Nat → Nat → Bool} {w w' : World} {i : Nat}

theorem initial (replaced : Nat → Nat → Bool) (limit : Nat) (capacity : Option Nat)
    (providers : List Provider) : Twin replaced (World.new limit capacity providers)
      (World.new limit capacity (mendAll replaced providers)) :=
  ⟨rfl, rfl, rfl, rfl, rfl, rfl, rfl, .nil, rfl, rfl, .nil⟩

/-! ### Bookkeeping -/

theorem note (h : Twin replaced w w') (i : Nat) {what what' : Occurrence}
    (hwhat : what.Mends what') : Twin replaced (w.note i what) (w'.note i what') :=
  { h with log := .cons ⟨h.now, rfl, hwhat⟩ h.log }

theorem put (h : Twin replaced w w') (i : Nat) {t t' : Task} (ht : t.Mends t') :
    Twin replaced (w.put i t) (w'.put i t') :=
  { h with tasks := forall₂_set h.tasks i ht }

theorem length_tasks (h : Twin replaced w w') : w'.tasks.length = w.tasks.length :=
  h.tasks.length_eq.symm

theorem wake (h : Twin replaced w w') (i : Nat) : Twin replaced (w.wake i) (w'.wake i) := by
  unfold World.wake
  rw [h.ready]
  split
  · exact h
  · exact { h with ready := rfl }

theorem wakeAll (h : Twin replaced w w') (tasks : List Nat) :
    Twin replaced (w.wakeAll tasks) (w'.wakeAll tasks) := by
  induction tasks generalizing w w' with
  | nil => exact h
  | cons i tasks ih => exact ih (h.wake i)

theorem receivers (h : Twin replaced w w') (queue : Nat) :
    w'.receivers queue = w.receivers queue := by
  unfold World.receivers
  rw [h.length_tasks]
  refine List.filter_congr fun j _ => ?_
  rcases forall₂_getElem? h.tasks j with ⟨ht, ht'⟩ | ⟨t, t', ht, ht', hmends⟩
  · rw [ht, ht']
  · rw [ht, ht']
    cases hmends <;> rfl

theorem wakeParties (h : Twin replaced w w') (parties : List Wake) :
    Twin replaced (w.wakeParties parties) (w'.wakeParties parties) := by
  induction parties generalizing w w' with
  | nil => exact h
  | cons party parties ih =>
    cases party with
    | publisher ticket => exact ih (h.wake ticket)
    | receiver queue =>
      have hwoken : Twin replaced (w.wakeAll (w.receivers queue))
          (w'.wakeAll (w'.receivers queue)) := by
        rw [h.receivers]
        exact h.wakeAll _
      exact ih hwoken

theorem withBus (h : Twin replaced w w') (bus : Bus) (parties : List Wake) :
    Twin replaced (w.withBus bus parties) (w'.withBus bus parties) := by
  have hset : Twin replaced { w with bus := bus } { w' with bus := bus } := { h with bus := rfl }
  exact hset.wakeParties parties

theorem setPermits (h : Twin replaced w w') (permits : Permits) :
    Twin replaced { w with permits := permits } { w' with permits := permits } :=
  { h with permits := rfl }

theorem withPermits (h : Twin replaced w w') (permits : Permits) (given : Option Nat) :
    Twin replaced (w.withPermits permits given) (w'.withPermits permits given) :=
  (h.setPermits permits).wakeAll _

theorem releasePermit (h : Twin replaced w w') :
    Twin replaced w.releasePermit w'.releasePermit := by
  unfold World.releasePermit
  rw [h.permits]
  exact h.withPermits _ _

theorem setTimer (h : Twin replaced w w') (i : Nat) {due due' : Nat} (heq : due' = due) :
    Twin replaced (w.setTimer i due) (w'.setTimer i due') := by
  subst heq
  unfold World.setTimer
  by_cases hdue : due' ≤ w.now
  · rw [if_pos hdue, if_pos (h.now.symm ▸ hdue)]
    exact h.wake i
  · rw [if_neg hdue, if_neg (h.now.symm ▸ hdue)]
    exact { h with timers := congrArg (· ++ [(due', i)]) h.timers }

theorem spawn (h : Twin replaced w w') (t : Task) : Twin replaced (w.spawn t) (w'.spawn t) := by
  unfold World.spawn
  rw [h.length_tasks]
  have hadded : Twin replaced { w with tasks := w.tasks ++ [t] }
      { w' with tasks := w'.tasks ++ [t] } :=
    { h with tasks := List.rel_append h.tasks (.cons (.same t) .nil) }
  exact hadded.wake _

/-! ### Publishing -/

theorem request (h : Twin replaced w w') (i : Nat) (e : Event) :
    Twin replaced (w.request i e) (w'.request i e) := by
  unfold World.request
  rw [h.bus]
  exact { h with bus := rfl }

theorem cancelPublish (h : Twin replaced w w') (i : Nat) :
    Twin replaced (w.cancelPublish i) (w'.cancelPublish i) := by
  unfold World.cancelPublish
  rw [h.bus]
  exact h.withBus _ _

/-- **A publish is completed in both worlds, or in none.** -/
theorem drive (h : Twin replaced w w') (i : Nat) (e : Event) :
    Twin replaced (w.drive i e).1 (w'.drive i e).1 ∧ (w'.drive i e).2 = (w.drive i e).2 := by
  unfold World.drive
  rw [h.bus]
  split
  · rcases w.bus.drive with ⟨bus, _ | ⟨ticket, count⟩, parties⟩
    · exact ⟨h.withBus _ _, rfl⟩
    · exact ⟨(h.withBus _ _).note i (.same _), rfl⟩
  · exact ⟨h, rfl⟩

theorem drive_cases (h : Twin replaced w w') (i : Nat) (e : Event) :
    ∃ v v' done, w.drive i e = (v, done) ∧ w'.drive i e = (v', done) ∧ Twin replaced v v' := by
  obtain ⟨hw, hdone⟩ := h.drive i e
  exact ⟨_, _, _, rfl, Prod.ext rfl hdone, hw⟩

theorem pollPublisher (h : Twin replaced w w') (i : Nat) (e : Event) (stage : PublisherStage) :
    Twin replaced (w.pollPublisher i e stage) (w'.pollPublisher i e stage) := by
  have hgo : ∀ {w w' : World}, Twin replaced w w' →
      Twin replaced (pollPublisher.go i e w) (pollPublisher.go i e w') := by
    intro w w' h
    obtain ⟨v, v', done, hd, hd', hv⟩ := h.drive_cases i e
    unfold pollPublisher.go
    rw [hd, hd']
    cases done with
    | none => exact hv.put i (.same _)
    | some count => exact hv.put i (.same _)
  cases stage with
  | new => exact hgo (h.request i e)
  | waiting => exact hgo h
  | _ => exact h

/-! ### Workers -/

section Workers

variable {k k' : Worker}

theorem putWorker (h : Twin replaced w w') (i : Nat) (hk : k.Peer k') {stage stage' : Stage}
    (hs : stage.Mends stage') : Twin replaced (w.put i (.worker { k with stage := stage }))
      (w'.put i (.worker { k' with stage := stage' })) :=
  h.put i (.worker (hk.mends hs))

theorem endWorker (h : Twin replaced w w') (i : Nat) (hk : k.Peer k') (stage : Stage) :
    Twin replaced (w.endWorker i k stage) (w'.endWorker i k' stage) :=
  (h.putWorker i hk (.same stage)).note i (.same _)

theorem sleep (h : Twin replaced w w') (i : Nat) (hk : k.Peer k') :
    Twin replaced (w.sleep i k) (w'.sleep i k') := by
  obtain ⟨s, f, rfl⟩ := hk
  unfold World.sleep
  rw [h.now]
  exact (h.putWorker i ⟨s, f, rfl⟩ (.same (.sleeping (w.now + k.interval)))).setTimer i rfl

theorem publish (pending : List Event) (h : Twin replaced w w') (i : Nat) (hk : k.Peer k') :
    Twin replaced (w.publish i k pending) (w'.publish i k' pending) := by
  induction pending generalizing w w' k k' with
  | nil => exact h.sleep i hk
  | cons e es ih =>
    obtain ⟨v, v', done, hd, hd', hv⟩ := h.drive_cases i e
    unfold World.publish
    rw [hd, hd']
    cases done with
    | none => exact hv.putWorker i hk (.same _)
    | some count =>
      obtain ⟨s, f, rfl⟩ := hk
      have hnoted := hv.note i (.same (.published k.name e))
      cases es with
      | nil => exact hnoted.sleep i ⟨s, f, rfl⟩
      | cons e' es => exact ih (hnoted.request i e') ⟨s, f, rfl⟩

theorem sift (found : List Event) (h : Twin replaced w w') (i : Nat) (hk : k.Peer k') :
    Twin replaced (w.sift i k found) (w'.sift i k' found) := by
  obtain ⟨s, f, rfl⟩ := hk
  have hadmitted : Twin replaced { w with admission := (w.admission.filter found).2 }
      { w' with admission := (w.admission.filter found).2 } := { h with admission := rfl }
  have hnoted := hadmitted.note i (.same (.filtered k.name (w.admission.filter found).1
    (found.length - (w.admission.filter found).1.length)))
  unfold World.sift
  rw [h.admission]
  simp only
  split
  · exact hnoted.sleep i ⟨s, f, rfl⟩
  · exact publish _ (hnoted.request i _) i ⟨s, f, rfl⟩

/-- **A fetch that was mended leads to the same as one that crashed,** but that it is no fault. -/
theorem finishFetch (h : Twin replaced w w') (i : Nat) (hk : k.Peer k') {since since' : Nat}
    (hsince : since' = since) {o o' : FetchOutcome} (ho : o.Mends o') :
    Twin replaced (w.finishFetch i k since o) (w'.finishFetch i k' since' o') := by
  obtain ⟨s, f, rfl⟩ := hk
  subst hsince
  have hnoted := h.releasePermit.note i (.fetchEnded k.name (w.now - since') ho)
  unfold World.finishFetch
  rw [h.now]
  cases ho with
  | same =>
    cases o with simp only
    | events es => exact hnoted.sift es i ⟨s, f, rfl⟩
    | crashed crash => exact hnoted.sift [] i ⟨s, f + 1, rfl⟩
    | deadly => exact hnoted.endWorker i ⟨s, f + 1, rfl⟩ .died
  | crashed crash => exact hnoted.sift [] i ⟨s, f, rfl⟩

/-- A provider is asked in both worlds. -/
theorem ask (h : Twin replaced w w') {source : Nat} {p : Provider}
    (hp : w.providers[source]? = some p) :
    w'.providers[source]? = some (p.mend (replaced source)) ∧
      Twin replaced { w with providers := w.providers.set source { p with calls := p.calls + 1 } }
        { w' with
          providers := w'.providers.set source
            { p.mend (replaced source) with calls := p.calls + 1 } } := by
  refine ⟨?_, { h with providers := ?_ }⟩
  · rw [h.providers, getElem?_mendAll, hp]
    rfl
  · change w'.providers.set source _ = mendAll replaced (w.providers.set source _)
    rw [h.providers, mendAll, mendAll, List.mapIdx_set]
    rfl

theorem beginFetch (h : Twin replaced w w') (i : Nat) (hk : k.Peer k') :
    Twin replaced (w.beginFetch i k) (w'.beginFetch i k') := by
  obtain ⟨s, f, rfl⟩ := hk
  have hnoted := h.note i (.same .fetchBegan)
  unfold World.beginFetch
  simp only
  generalize w.note i .fetchBegan = v, w'.note i .fetchBegan = v' at hnoted
  rcases hp : v.providers[k.source]? with _ | p
  · have hp' : v'.providers[k.source]? = none := by
      rw [hnoted.providers, getElem?_mendAll, hp]
      rfl
    rw [hp']
    exact hnoted.finishFetch i ⟨s, f, rfl⟩ hnoted.now (.same _)
  · obtain ⟨hp', hasked⟩ := hnoted.ask hp
    obtain ⟨hdelay, houtcome⟩ := p.mend_fetch (replaced k.source) p.calls
    have hstage : Stage.Mends
        (.fetching v.now (v.now + (p.fetch p.calls).delay) (p.fetch p.calls).outcome)
        (.fetching v'.now (v'.now + (p.fetch p.calls).delay)
          ((p.mend (replaced k.source)).fetch p.calls).outcome) := by
      rw [hnoted.now]
      exact .fetching _ _ houtcome
    have hput := hasked.putWorker i (k := { k with tally.cycles := k.tally.cycles + 1 })
      ⟨s, f, rfl⟩ hstage
    rw [hp']
    simp only
    rw [show (p.mend (replaced k.source)).calls = p.calls from rfl, hdelay]
    split
    · exact hasked.finishFetch i ⟨s, f, rfl⟩ hnoted.now houtcome
    · exact hput.setTimer i (congrArg (· + (p.fetch p.calls).delay) hnoted.now)

theorem askPermit (h : Twin replaced w w') (i : Nat) (hk : k.Peer k') :
    Twin replaced (w.askPermit i k) (w'.askPermit i k') := by
  have hnoted := h.note i (.same .asked)
  unfold World.askPermit
  simp only
  rw [hnoted.permits]
  split
  · exact hnoted.endWorker i hk _
  · split
    · exact (hnoted.setPermits _).beginFetch i hk
    · exact (hnoted.setPermits _).putWorker i hk (.same _)

theorem stopWorker (h : Twin replaced w w') (i : Nat) (hk : k.Mends k') :
    Twin replaced (w.stopWorker i k) (w'.stopWorker i k') := by
  obtain ⟨hpeer, hs⟩ := hk
  unfold World.stopWorker
  refine endWorker ?_ i hpeer _
  generalize k.stage = stage, k'.stage = stage' at hs
  cases hs with
  | same =>
    rw [h.permits]
    cases stage with
    | queued => exact h.withPermits _ _
    | fetching since due outcome => exact h.releasePermit.note i (.same _)
    | publishing pending => exact h.cancelPublish i
    | ready => exact h
    | sleeping due => exact h
    | cancelled => exact h
    | died => exact h
  | fetching since due ho => exact h.releasePermit.note i (.same _)

theorem pollWorker (h : Twin replaced w w') (i : Nat) (hk : k.Mends k') :
    Twin replaced (w.pollWorker i k) (w'.pollWorker i k') := by
  have hsignal : w'.signal.isStop = w.signal.isStop := by rw [h.signal]
  unfold World.pollWorker
  rw [hsignal]
  split
  · exact h.stopWorker i hk
  · obtain ⟨hpeer, hs⟩ := hk
    generalize k.stage = stage, k'.stage = stage' at hs
    cases hs with
    | same =>
      cases stage with simp only
      | ready => exact h.askPermit i hpeer
      | queued =>
        rw [h.permits]
        split
        · exact h.endWorker i hpeer _
        · split
          · exact (h.setPermits _).beginFetch i hpeer
          · exact h
      | fetching since due outcome =>
        rw [h.now]
        split
        · exact h.finishFetch i hpeer rfl (.same outcome)
        · exact h
      | publishing pending => exact publish pending h i hpeer
      | sleeping due =>
        rw [h.now]
        split
        · exact h.askPermit i hpeer
        · exact h
      | cancelled => exact h
      | died => exact h
    | fetching since due ho =>
      simp only
      rw [h.now]
      split
      · exact h.finishFetch i hpeer rfl ho
      · exact h

end Workers

/-! ### Consumers -/

theorem endConsumer (h : Twin replaced w w') (i : Nat) (c : Consumer) (stage : ConsumerStage) :
    Twin replaced (w.endConsumer i c stage) (w'.endConsumer i c stage) := by
  unfold World.endConsumer
  rw [h.bus]
  exact ((h.put i (.same _)).withBus _ _).note i (.same _)

theorem finishHandling (h : Twin replaced w w') (i : Nat) (c : Consumer) (e : Event)
    (outcome : HandlingOutcome) :
    Twin replaced (w.finishHandling i c e outcome).1 (w'.finishHandling i c e outcome).1 :=
  h.note i (.same _)

theorem receive (most : Nat) (h : Twin replaced w w') (i : Nat) (c : Consumer) :
    Twin replaced (w.receive i c most) (w'.receive i c most) := by
  induction most generalizing w w' c with
  | zero => exact h.put i (.same _)
  | succ most ih =>
    unfold World.receive
    rw [h.bus]
    split
    · exact h.put i (.same _)
    · exact h.endConsumer i c _
    · rename_i e bus parties _
      have htaken := (h.withBus bus parties).note i (.same (.taken e))
      simp only
      split
      · split
        · exact endConsumer (htaken.finishHandling i _ _ _) i _ _
        · exact ih (htaken.finishHandling i _ _ _) _
      · rw [htaken.now]
        exact (htaken.put i (.same _)).setTimer i rfl

theorem backlog (h : Twin replaced w w') (queue : Nat) : w'.backlog queue = w.backlog queue := by
  unfold World.backlog
  rw [h.bus]

theorem pollConsumer (h : Twin replaced w w') (i : Nat) (c : Consumer) :
    Twin replaced (w.pollConsumer i c) (w'.pollConsumer i c) := by
  unfold World.pollConsumer
  rw [h.signal, h.now]
  split
  · exact h.endConsumer i c _
  · split
    · rw [h.backlog]
      exact receive _ h i c
    · split
      · rename_i e due outcome _ _
        have hhandled := h.finishHandling i c e outcome
        simp only
        split
        · exact endConsumer hhandled i _ _
        · rw [hhandled.backlog]
          exact receive _ hhandled i _
      · exact h
    · exact h
    · exact h

/-! ### Polls -/

theorem poll (h : Twin replaced w w') (i : Nat) : Twin replaced (w.poll i) (w'.poll i) := by
  unfold World.poll
  rcases forall₂_getElem? h.tasks i with ⟨ht, ht'⟩ | ⟨t, t', ht, ht', hmends⟩
  · rw [ht, ht']
    exact h
  · rw [ht, ht']
    simp only [hmends.isOver]
    split
    · exact h
    · cases hmends with
      | same =>
        cases t with
        | worker k => exact h.pollWorker i ⟨Worker.Peer.refl k, .same _⟩
        | consumer c => exact h.pollConsumer i c
        | publisher event stage => exact h.pollPublisher i event stage
      | worker hk => exact h.pollWorker i hk

/-- Polls that are due in one world are due in the other. -/
theorem setReady (h : Twin replaced w w') (ready : List Nat) :
    Twin replaced { w with ready := ready } { w' with ready := ready } :=
  { h with ready := rfl }

theorem step (h : Twin replaced w w') : Twin replaced w.step w'.step := by
  unfold World.step
  rw [h.ready]
  split
  · exact h
  · exact (h.setReady _).poll _

theorem settleAt (h : Twin replaced w w') (most : Nat) :
    Twin replaced (w.settleAt most) (w'.settleAt most) := by
  induction most generalizing w w' with
  | zero => exact h
  | succ most ih =>
    have hsettled : w'.isSettled = w.isSettled := congrArg List.isEmpty h.ready
    unfold World.settleAt
    rw [hsettled]
    split
    · exact h
    · exact ih h.step

/-! ### Time -/

theorem setNow (h : Twin replaced w w') (moment : Nat) :
    Twin replaced { w with now := moment } { w' with now := moment } :=
  { h with now := rfl }

theorem fire (h : Twin replaced w w') (moment : Nat) :
    Twin replaced (w.fire moment) (w'.fire moment) := by
  have hset : Twin replaced
      { w with now := moment, timers := w.timers.filter fun t => moment < t.1 }
      { w' with now := moment, timers := w.timers.filter fun t => moment < t.1 } :=
    { h with now := rfl, timers := rfl }
  unfold World.fire
  rw [h.timers]
  exact hset.wakeAll _

theorem nextTimer (h : Twin replaced w w') : w'.nextTimer = w.nextTimer := by
  unfold World.nextTimer
  rw [h.timers]

theorem skip (h : Twin replaced w w') (next : Nat) :
    Twin replaced (w.skip next) (w'.skip next) := by
  unfold World.skip
  rw [h.now]
  exact (h.fire _).settleAt _

theorem advanceAt (h : Twin replaced w w') (moment most : Nat) :
    Twin replaced (w.advanceAt moment most) (w'.advanceAt moment most) := by
  induction most generalizing w w' with
  | zero => exact h.setNow moment
  | succ most ih =>
    unfold World.advanceAt
    rw [h.nextTimer]
    split
    · exact h.setNow moment
    · split
      · exact ih (h.skip _)
      · exact h.setNow moment

theorem advance (h : Twin replaced w w') (ms : Nat) :
    Twin replaced (w.advance ms) (w'.advance ms) := by
  unfold World.advance
  rw [h.now]
  exact (h.settleAt _).advanceAt _ _

/-! ### Moves -/

theorem spawnAll (h : Twin replaced w w') (ts : List Task) :
    Twin replaced (ts.foldl World.spawn w) (ts.foldl World.spawn w') := by
  induction ts generalizing w w' with
  | nil => exact h
  | cons t ts ih => exact ih (h.spawn t)

/-- The same workers are started. -/
theorem start (h : Twin replaced w w') : Twin replaced w.start w'.start := by
  have hworkers : ((List.range w'.providers.length).zip w'.providers).map
        (fun s => Task.worker (.ofProvider w'.runs s.1 s.2)) =
      ((List.range w.providers.length).zip w.providers).map
        fun s => Task.worker (.ofProvider w.runs s.1 s.2) := by
    rw [h.providers, h.runs]
    refine List.ext_getElem (by simp [mendAll]) fun j hj hj' => ?_
    simp [mendAll, Worker.ofProvider, Provider.mend]
  have hruns : Twin replaced { w with runs := w.runs + 1 } { w' with runs := w'.runs + 1 } :=
    { h with runs := congrArg (· + 1) h.runs }
  unfold World.start
  simp only
  rw [hworkers]
  exact hruns.spawnAll _

theorem stoppable (h : Twin replaced w w') : w'.stoppable = w.stoppable := by
  unfold World.stoppable
  rw [h.length_tasks]
  refine List.filter_congr fun j _ => ?_
  rcases forall₂_getElem? h.tasks j with ⟨ht, ht'⟩ | ⟨t, t', ht, ht', hmends⟩
  · rw [ht, ht']
  · rw [ht, ht']
    cases hmends with
    | same => rfl
    | worker hk => exact congrArg (!·) hk.2.isOver

theorem act (h : Twin replaced w w') (m : Move) : Twin replaced (w.act m) (w'.act m) := by
  cases m with
  | start => exact h.start
  | poll task =>
    unfold World.act
    rw [h.ready]
    exact (h.setReady _).poll task
  | clock moment => exact h.setNow moment
  | fire moment => exact h.fire moment
  | send value =>
    have hset : Twin replaced { w with signal.value := value } { w' with signal.value := value } :=
      { h with signal := by rw [h.signal] }
    change Twin replaced (World.wakeAll _ _) (World.wakeAll _ _)
    rw [h.stoppable]
    exact hset.wakeAll _
  | dropSignal =>
    have hset : Twin replaced { w with signal.isHeld := false }
      { w' with signal.isHeld := false } := { h with signal := by rw [h.signal] }
    change Twin replaced (World.wakeAll _ _) (World.wakeAll _ _)
    rw [h.stoppable]
    exact hset.wakeAll _
  | subscribe =>
    simp only [World.act, World.subscribe?]
    rw [h.bus]
    rcases w.bus.subscribe? with _ | ⟨queue, bus⟩
    · exact h
    · exact { h with bus := rfl }
  | unsubscribe queue =>
    change Twin replaced (World.withBus _ _ _) (World.withBus _ _ _)
    rw [h.bus]
    exact h.withBus _ _
  | take queue =>
    change Twin replaced (World.withBus _ _ _) (World.withBus _ _ _)
    rw [h.bus]
    exact h.withBus _ _
  | drain queue =>
    change Twin replaced (World.withBus _ _ _) (World.withBus _ _ _)
    rw [h.bus]
    exact h.withBus _ _
  | consume sink queue =>
    change Twin replaced (World.spawn _ _) (World.spawn _ _)
    rw [h.now]
    exact h.spawn _
  | post event => exact h.spawn _
  | offer key =>
    unfold World.act
    exact { h with admission := by rw [h.admission] }
  | closeBus =>
    change Twin replaced (World.withBus _ _ _) (World.withBus _ _ _)
    rw [h.bus]
    exact h.withBus _ _

end Twin
end World
end StatusRelay
