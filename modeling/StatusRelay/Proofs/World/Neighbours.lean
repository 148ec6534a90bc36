/-
# What others do to a consumer

A consumer sees of the world its queue, the signal and the time. While others are polled, and while
somebody outside acts, the consumer stays as it is: `Spares` says what can change for it meanwhile.

| what changes | and then |
| --- | --- |
| its queue grows, or the bus goes | it is going to be polled |
| a stop is signalled | it is going to be polled |
| its timer fires | it is going to be polled, and the moment has come, unless time goes back |

The consumer has its queue for itself: nobody else is a consumer of it, and nobody outside takes
anything from it. So what others do with the queues of their own does not touch it.
-/

import StatusRelay.Proofs.Bus.Arrivals
import StatusRelay.Proofs.World.Shutdown
import StatusRelay.Proofs.World.Waking

namespace StatusRelay
namespace World

variable {i j : Nat} {c : Consumer} {P : Nat → Prop} {w w' : World}

/-! ### Who is named is woken -/

theorem mem_receivers (hc : w.tasks[i]? = some (.consumer c)) (hover : c.stage.isOver = false) :
    i ∈ w.receivers c.queue := by
  unfold receivers
  rw [List.mem_filter, List.mem_range, hc]
  exact ⟨(List.getElem?_eq_some_iff.1 hc).1, by simp [hover]⟩

theorem mem_ready_wakeParties {parties : List Wake} (hc : w.tasks[i]? = some (.consumer c))
    (hover : c.stage.isOver = false) (hp : Wake.receiver c.queue ∈ parties) :
    i ∈ (w.wakeParties parties).ready := by
  obtain ⟨front, back, rfl⟩ := List.append_of_mem hp
  obtain ⟨more, hfront⟩ := wakeParties_eq w front
  have hsplit : w.wakeParties (front ++ .receiver c.queue :: back) =
      ((w.wakeParties front).wakeAll ((w.wakeParties front).receivers c.queue)).wakeParties back := by
    unfold wakeParties
    rw [List.foldl_append, List.foldl_cons]
  rw [hfront] at hsplit
  obtain ⟨woken, hwoken, hmem⟩ := wakeAll_eq { w with ready := w.ready ++ more }
    (({ w with ready := w.ready ++ more } : World).receivers c.queue)
  obtain ⟨rest, hback⟩ := wakeParties_eq
    { w with ready := w.ready ++ more ++ woken } back
  rw [hsplit, hwoken, hback]
  exact List.mem_append_left _ (hmem i (mem_receivers hc hover))

/-! ### A consumer meanwhile -/

/-- **A consumer that is not over stays as it is.** What it could go on with makes it stand in the
queue of tasks. -/
structure Spares (i : Nat) (c : Consumer) (w w' : World) : Prop where
  task : w'.tasks[i]? = some (.consumer c)
  ready : i ∈ w.ready → i ∈ w'.ready
  grows : ∃ more, w'.bus.contents c.queue = (w.bus.contents c.queue).map (· ++ more) ∧
    (i ∈ w'.ready ∨ more = [] ∧ (w'.bus.isGone = true → w.bus.isGone = true))
  signal : w'.signal.isStop = true → i ∈ w'.ready ∨ w.signal.isStop = true

namespace Spares

/-- Nothing happens to the bus. -/
theorem of_bus (htask : w'.tasks[i]? = some (.consumer c)) (hready : i ∈ w.ready → i ∈ w'.ready)
    (hbus : w'.bus = w.bus)
    (hsignal : w'.signal.isStop = true → i ∈ w'.ready ∨ w.signal.isStop = true) :
    Spares i c w w' :=
  ⟨htask, hready, ⟨[], by simp [hbus], Or.inr ⟨rfl, by rw [hbus]; exact id⟩⟩, hsignal⟩

/-- What an operation on the bus does to the consumer. -/
theorem withBus (hc : w.tasks[i]? = some (.consumer c)) (hover : c.stage.isOver = false) {bus : Bus}
    {parties : List Wake} (h : Bus.Feeds c.queue w.bus bus parties) :
    Spares i c w (w.withBus bus parties) := by
  obtain ⟨more, hmore, hnamed⟩ := h
  have hwoken : Wake.receiver c.queue ∈ parties → i ∈ (w.withBus bus parties).ready :=
    mem_ready_wakeParties (w := { w with bus := bus }) hc hover
  obtain ⟨ready, hw⟩ := withBus_eq w bus parties
  rw [hw] at hwoken ⊢
  exact ⟨hc, List.mem_append_left _, ⟨more, hmore, hnamed.imp_left hwoken⟩, Or.inr⟩

end Spares

/-! ### Others are polled -/

/-- **What somebody else does** leaves the bus orderly, and spares each consumer `i` of a queue that
it does not touch. -/
def Aside (i : Nat) (P : Nat → Prop) (w w' : World) : Prop :=
  w.bus.Orderly → w'.bus.Orderly ∧ ∀ c, w.tasks[i]? = some (.consumer c) →
    c.stage.isOver = false → P c.queue → w.bus.isOpenAt c.queue = true → Spares i c w w'

namespace Aside

theorem refl (w : World) : Aside i P w w :=
  fun ho => ⟨ho, fun _ hc _ _ _ => .of_bus hc id rfl Or.inr⟩

theorem trans {a b d : World} (h : Aside i P a b) (h' : Aside i P b d) : Aside i P a d := by
  intro ho
  obtain ⟨hob, hab⟩ := h ho
  obtain ⟨hod, hbd⟩ := h' hob
  refine ⟨hod, fun c hc hover hP hopen => ?_⟩
  have hfirst := hab c hc hover hP hopen
  obtain ⟨more, hmore, hnamed⟩ := hfirst.grows
  have hnext := hbd c hfirst.task hover hP ((Bus.isOpenAt_of_grows hmore).trans hopen)
  obtain ⟨more', hmore', hnamed'⟩ := hnext.grows
  refine ⟨hnext.task, fun hi => hnext.ready (hfirst.ready hi), ⟨more ++ more', ?_, ?_⟩,
    fun hs => ?_⟩
  · rw [hmore', hmore, Option.map_map]
    congr 1
    funext es
    exact List.append_assoc _ _ _
  · rcases hnamed with hi | ⟨rfl, hgone⟩
    · exact Or.inl (hnext.ready hi)
    · exact hnamed'.imp_right fun ⟨hnil, hgone'⟩ => ⟨hnil, fun hg => hgone (hgone' hg)⟩
  · rcases hnext.signal hs with hi | hs
    · exact Or.inl hi
    · exact (hfirst.signal hs).imp_left hnext.ready

/-- Nothing happens to the bus. -/
theorem of_bus (hbus : w'.bus = w.bus) (htask : w'.tasks[i]? = w.tasks[i]?)
    (hready : w.ready ⊆ w'.ready) (hsignal : w'.signal = w.signal) : Aside i P w w' :=
  fun ho => ⟨hbus ▸ ho, fun _ hc _ _ _ =>
    .of_bus (htask.trans hc) (fun hi => hready hi) hbus fun hs => Or.inr (hsignal ▸ hs)⟩

/-- An operation on the bus. -/
theorem withBus (bus : Bus) (parties : List Wake) (horderly : w.bus.Orderly → bus.Orderly)
    (hfeeds : ∀ queue, P queue → w.bus.Orderly → w.bus.isOpenAt queue = true →
      Bus.Feeds queue w.bus bus parties) : Aside i P w (w.withBus bus parties) := by
  intro ho
  refine ⟨?_, fun c hc hover hP hopen => .withBus hc hover (hfeeds c.queue hP ho hopen)⟩
  obtain ⟨ready, hw⟩ := withBus_eq w bus parties
  rw [hw]
  exact horderly ho

theorem put (hj : j ≠ i) (w : World) (t : Task) : Aside i P w (w.put j t) :=
  of_bus rfl (List.getElem?_set_ne hj) (List.Subset.refl _) rfl

theorem note (w : World) (j : Nat) (what : Occurrence) : Aside i P w (w.note j what) :=
  of_bus rfl rfl (List.Subset.refl _) rfl

theorem setTimer (w : World) (j due : Nat) : Aside i P w (w.setTimer j due) := by
  obtain ⟨more, timers, hw⟩ := setTimer_eq w j due
  rw [hw]
  exact of_bus rfl rfl (List.subset_append_left _ _) rfl

theorem drive (w : World) (j : Nat) (event : Event) : Aside i P w (w.drive j event).1 := by
  have hbus : ∀ parties, parties = w.bus.drive.2.2 →
      Aside i P w (w.withBus w.bus.drive.1 parties) := fun parties hp =>
    withBus _ _ (fun ho => ho.drive) fun queue _ ho hopen => hp ▸ .drive ho hopen
  unfold World.drive
  split
  · rcases hd : w.bus.drive with ⟨bus, _ | ⟨ticket, count⟩, parties⟩
    · rw [hd] at hbus
      exact hbus _ rfl
    · rw [hd] at hbus
      exact (hbus _ rfl).trans (note _ j _)
  · exact refl w

/-- **Workers and publishers** take nothing out of any queue. -/
theorem sending (hj : j ≠ i) (may : Occurrence → Prop) : Sending j may (Aside i P) where
  refl := refl
  trans := trans
  put := put hj
  note w what _ := note w j what
  setTimer w due := setTimer w j due
  request w event := withBus (w.bus.request j event) [] (fun ho => ho.request j event)
    fun _ _ _ _ => .request w.bus j event
  drive w := drive w j
  cancel w := withBus _ _ (fun ho => ho.cancel j) fun _ _ _ hopen => .cancel hopen j
  permit w permits given := by
    obtain ⟨more, hw⟩ := withPermits_eq w permits given
    rw [hw]
    exact of_bus rfl rfl (List.subset_append_left _ _) rfl
  collect _ _ := of_bus rfl rfl (List.Subset.refl _) rfl
  remember _ _ := of_bus rfl rfl (List.Subset.refl _) rfl
  ask _ _ := of_bus rfl rfl (List.Subset.refl _) rfl

/-- **Consumers** take from queues of their own. -/
theorem receiving (hj : j ≠ i) (may : Occurrence → Prop) (queue : Nat) :
    Receiving j queue may (Aside i (· ≠ queue)) where
  refl := refl
  trans := trans
  put := put hj
  note w what _ := note w j what
  setTimer w due := setTimer w j due
  take w := withBus _ _ (fun ho => ho.take queue) fun _ hne _ _ => .take w.bus hne
  leave w := withBus _ _ (fun ho => ho.unsubscribe queue) fun _ hne _ _ => .unsubscribe w.bus hne

/-- Somebody else is polled, who is no consumer of the same queue. -/
theorem poll (hj : j ≠ i) {queue : Nat}
    (hothers : ∀ c, w.tasks[j]? = some (.consumer c) → c.queue ≠ queue) :
    Aside i (· = queue) w (w.poll j) := by
  rcases ht : w.tasks[j]? with _ | t
  · have hw : w.poll j = w := by simp [World.poll, ht]
    rw [hw]
    exact refl w
  · cases t with
    | worker k => exact (sending hj _).poll ht rfl
    | publisher event stage => exact (sending hj _).poll ht rfl
    | consumer c =>
      intro ho
      obtain ⟨ho', hspares⟩ := (receiving hj _ c.queue).poll ht ho
      exact ⟨ho', fun c' hc hover hP =>
        hspares c' hc hover (hP ▸ (hothers c ht).symm)⟩

end Aside

/-! ### Somebody outside acts -/

/-- Whether a move makes use of a queue that somebody outside would have to have. -/
def Move.uses (queue : Nat) : Move → Bool
  | unsubscribe q => q == queue
  | take q => q == queue
  | drain q => q == queue
  | consume _ q => q == queue
  | _ => false

namespace Aside

/-- Whoever acts outside neither touches the bus nor gives the signal. -/
theorem outside {m : Move} (h : Outside m w w') (hbus : w'.bus = w.bus)
    (hsignal : m.gives w.signal = w.signal) : Aside i P w w' := by
  refine fun ho => ⟨hbus ▸ ho, fun c hc _ _ _ => ?_⟩
  refine .of_bus ?_ (fun hi => h.ready hi) hbus fun hs => Or.inr ?_
  · rw [h.tasks, List.getElem?_append_left (List.getElem?_eq_some_iff.1 hc).1]
    exact hc
  · rwa [h.signal, hsignal] at hs

/-- **A change of the signal** has everybody polled who may have to stop. -/
theorem signal (w : World) (signal : Signal) :
    Aside i P w (({ w with signal := signal } : World).wakeAll w.stoppable) := by
  obtain ⟨more, hw, hmem⟩ := wakeAll_eq { w with signal := signal } w.stoppable
  rw [hw]
  refine fun ho => ⟨ho, fun c hc hover _ _ => ?_⟩
  have hi : i ∈ w.stoppable :=
    mem_stoppable.2 ⟨_, hc, by simp [Task.isStoppable, Task.isOver, hover]⟩
  exact .of_bus hc (List.mem_append_left _) rfl fun _ => Or.inl (hmem i hi)

/-- **Whatever happens outside,** as long as nobody there uses the queue, spares its consumer. -/
theorem act (w : World) {m : Move} {queue : Nat} (hm : ∀ j, m ≠ .poll j)
    (huses : m.uses queue = false) : Aside i (· = queue) w (w.act m) := by
  have hout := act_outside w hm
  cases m with
  | poll task => exact absurd rfl (hm task)
  | start =>
    obtain ⟨more, hw, -⟩ := start_eq w
    exact outside hout (by rw [World.act, hw]) rfl
  | clock moment => exact outside hout rfl rfl
  | fire moment =>
    obtain ⟨more, hw, -⟩ := wakeAll_eq
      { w with now := moment, timers := w.timers.filter fun t => moment < t.1 }
      ((w.timers.filter fun t => t.1 ≤ moment).map (·.2))
    exact outside hout (by rw [World.act, fire, hw]) rfl
  | send value => exact signal w { w.signal with value := value }
  | dropSignal => exact signal w { w.signal with isHeld := false }
  | subscribe =>
    simp only [World.act, World.subscribe?]
    rcases hs : w.bus.subscribe? with _ | ⟨x, bus⟩
    · exact refl w
    · exact withBus bus [] (fun ho => ho.subscribe hs) fun _ _ _ hopen => .subscribe hopen hs
  | unsubscribe x =>
    have hx : queue ≠ x := fun heq => by simp [Move.uses, heq] at huses
    exact withBus _ _ (fun ho => ho.unsubscribe x) fun _ hq _ _ => .unsubscribe w.bus (hq ▸ hx)
  | take x =>
    have hx : queue ≠ x := fun heq => by simp [Move.uses, heq] at huses
    exact withBus _ _ (fun ho => ho.take x) fun _ hq _ _ => .take w.bus (hq ▸ hx)
  | drain x =>
    have hx : queue ≠ x := fun heq => by simp [Move.uses, heq] at huses
    exact withBus _ _ (fun ho => ho.drain x) fun _ hq _ _ => .drain w.bus (hq ▸ hx)
  | consume sink x =>
    obtain ⟨more, hw, -⟩ := spawn_eq w (.consumer { sink := sink, queue := x, started := w.now })
    exact outside hout (by rw [World.act, consume, hw]) rfl
  | post event =>
    obtain ⟨more, hw, -⟩ := spawn_eq w (.publisher event .new)
    exact outside hout (by rw [World.act, post, hw]) rfl
  | offer key => exact outside hout rfl rfl
  | closeBus => exact withBus _ _ (fun ho => ho.close) fun _ _ _ hopen => .close hopen

end Aside

/-! ### Runs -/

/-- Whether nobody but one task is a consumer of a queue. -/
def Sole (i queue : Nat) (w : World) : Prop :=
  ∀ j c, w.tasks[j]? = some (.consumer c) → c.queue = queue → j = i

/-- A queue that nobody uses otherwise stays with its consumer. -/
theorem Sole.act {queue : Nat} (h : Sole i queue w) {m : Move} (huses : m.uses queue = false) :
    Sole i queue (w.act m) := by
  intro j c hc hq
  have hroster := roster_of_getElem? hc
  rw [roster_act] at hroster
  by_cases hj : j < w.roster.length
  · rw [List.getElem?_append_left hj] at hroster
    obtain ⟨t, ht, heq⟩ := getElem?_of_roster hroster
    cases t with
    | consumer c' =>
      have hfresh := Task.consumer.inj heq
      exact h j c' ht ((congrArg Consumer.queue hfresh).trans hq)
    | _ => simp [Task.fresh] at heq
  · rw [List.getElem?_append_right (Nat.le_of_not_lt hj)] at hroster
    have hmem := List.mem_of_getElem? hroster
    cases m with
    | consume sink x =>
      have hx : c.queue = x :=
        congrArg Consumer.queue (Task.consumer.inj (List.mem_singleton.1 hmem))
      simp [Move.uses, ← hq, hx] at huses
    | start => simp [newcomers, Task.fresh] at hmem
    | post event => simp [newcomers, Task.fresh] at hmem
    | _ => simp [newcomers] at hmem

/-- Whether time does not go back. -/
def Move.goesOn (w : World) : Move → Bool
  | clock moment => w.now ≤ moment
  | fire moment => w.now ≤ moment
  | _ => true

/-- Whether time goes back at none of the moves. -/
def onward (w : World) : List Move → Bool
  | [] => true
  | m :: moves => m.goesOn w && (w.act m).onward moves

/-- **Timers are set by tasks,** and time is moved by the moves that say so. -/
theorem clock_act (w : World) {m : Move} (hpoll : ∀ j, m ≠ .poll j)
    (hclock : ∀ moment, m ≠ .clock moment) (hfire : ∀ moment, m ≠ .fire moment) :
    (w.act m).now = w.now ∧ (w.act m).timers = w.timers := by
  have hbus (bus : Bus) (parties : List Wake) :
      (w.withBus bus parties).now = w.now ∧ (w.withBus bus parties).timers = w.timers := by
    obtain ⟨more, hw⟩ := withBus_eq w bus parties
    rw [hw]
    exact ⟨rfl, rfl⟩
  have hspawn (t : Task) : (w.spawn t).now = w.now ∧ (w.spawn t).timers = w.timers := by
    obtain ⟨more, hw, -⟩ := spawn_eq w t
    rw [hw]
    exact ⟨rfl, rfl⟩
  have hsignal (signal : Signal) :
      let w' := ({ w with signal := signal } : World).wakeAll w.stoppable
      w'.now = w.now ∧ w'.timers = w.timers := by
    obtain ⟨more, hw, -⟩ := wakeAll_eq { w with signal := signal } w.stoppable
    rw [hw]
    exact ⟨rfl, rfl⟩
  cases m with
  | poll j => exact absurd rfl (hpoll j)
  | clock moment => exact absurd rfl (hclock moment)
  | fire moment => exact absurd rfl (hfire moment)
  | start =>
    obtain ⟨more, hw, -⟩ := start_eq w
    rw [act, hw]
    exact ⟨rfl, rfl⟩
  | send value => exact hsignal { w.signal with value := value }
  | dropSignal => exact hsignal { w.signal with isHeld := false }
  | subscribe =>
    simp only [act, World.subscribe?]
    rcases w.bus.subscribe? with _ | ⟨x, bus⟩ <;> exact ⟨rfl, rfl⟩
  | unsubscribe x => exact hbus _ _
  | take x => exact hbus _ _
  | drain x => exact hbus _ _
  | consume sink x => exact hspawn _
  | post event => exact hspawn _
  | offer key => exact ⟨rfl, rfl⟩
  | closeBus => exact hbus _ _

/-- No timer fires, and time stands still. Timers are set for later moments only. -/
structure Ticks (w w' : World) : Prop where
  now : w'.now = w.now
  timers : ∃ more, w'.timers = w.timers ++ more ∧ ∀ t ∈ more, w.now < t.1

namespace Ticks

theorem of_same (hnow : w'.now = w.now) (htimers : w'.timers = w.timers) : Ticks w w' :=
  ⟨hnow, [], by rw [htimers, List.append_nil], by simp⟩

theorem refl (w : World) : Ticks w w := of_same rfl rfl

theorem trans {a b d : World} (h : Ticks a b) (h' : Ticks b d) : Ticks a d where
  now := h'.now.trans h.now
  timers := by
    obtain ⟨more, hb, hmore⟩ := h.timers
    obtain ⟨more', hd, hmore'⟩ := h'.timers
    rw [h.now] at hmore'
    refine ⟨more ++ more', by rw [hd, hb, List.append_assoc], fun t ht => ?_⟩
    exact (List.mem_append.1 ht).elim (hmore t) (hmore' t)

theorem wakeAll (w : World) (tasks : List Nat) : Ticks w (w.wakeAll tasks) := by
  obtain ⟨more, hw, -⟩ := wakeAll_eq w tasks
  rw [hw]
  exact of_same rfl rfl

theorem withBus (w : World) (bus : Bus) (parties : List Wake) :
    Ticks w (w.withBus bus parties) := by
  obtain ⟨more, hw⟩ := withBus_eq w bus parties
  rw [hw]
  exact of_same rfl rfl

theorem setTimer (w : World) (j due : Nat) : Ticks w (w.setTimer j due) := by
  unfold World.setTimer
  split
  · exact wakeAll w [j]
  · rename_i hdue
    refine ⟨rfl, [(due, j)], rfl, fun t ht => ?_⟩
    rw [List.mem_singleton.1 ht]
    exact Nat.lt_of_not_le hdue

theorem drive (w : World) (j : Nat) (event : Event) : Ticks w (w.drive j event).1 := by
  rcases drive_cases w j event with ⟨ticket, count, more, -, -, hd⟩ | ⟨bus, -, hd⟩
  · rw [hd]
    exact of_same rfl rfl
  · rw [hd]
    exact of_same rfl rfl

theorem frame (j : Nat) (may : Occurrence → Prop) : Frame j may Ticks where
  refl := refl
  trans := trans
  put _ _ := of_same rfl rfl
  note _ _ _ := of_same rfl rfl
  setTimer w := setTimer w j
  request _ _ := of_same rfl rfl
  drive w := drive w j
  cancel w := withBus w _ _
  permit w permits given := by
    obtain ⟨more, hw⟩ := withPermits_eq w permits given
    rw [hw]
    exact of_same rfl rfl
  collect _ _ := of_same rfl rfl
  remember _ _ := of_same rfl rfl
  ask _ _ := of_same rfl rfl
  take w _ := withBus w _ _
  leave w _ := withBus w _ _

theorem poll (w : World) (j : Nat) : Ticks w (w.poll j) := Frame.poll_of_all (frame j) w

/-- Time is moved by the moves that say so, and by no others. -/
theorem act (w : World) {m : Move} (hclock : ∀ moment, m ≠ .clock moment)
    (hfire : ∀ moment, m ≠ .fire moment) : Ticks w (w.act m) := by
  by_cases hp : ∃ j, m = .poll j
  · obtain ⟨j, rfl⟩ := hp
    exact (of_same rfl rfl : Ticks w { w with ready := w.ready.erase j }).trans (poll _ j)
  · obtain ⟨hnow, htimers⟩ := clock_act w (not_exists.1 hp) hclock hfire
    exact of_same hnow htimers

end Ticks

/-- Whether a task is going to be polled once a moment has come. -/
def Awaits (i due : Nat) (w : World) : Prop :=
  (due, i) ∈ w.timers ∨ i ∈ w.ready ∧ due ≤ w.now

namespace Awaits

variable {due : Nat}

theorem of_ticks (h : Awaits i due w) (ht : Ticks w w') (hready : i ∈ w.ready → i ∈ w'.ready) :
    Awaits i due w' := by
  obtain ⟨more, htimers, -⟩ := ht.timers
  rw [Awaits, htimers, ht.now]
  exact h.imp (List.mem_append_left _) fun ⟨hi, hdue⟩ => ⟨hready hi, hdue⟩

/-- **A timer fires in time,** unless the task is polled first. -/
theorem act (h : Awaits i due w) {m : Move} (hm : m ≠ .poll i) (hon : m.goesOn w = true) :
    Awaits i due (w.act m) := by
  by_cases hp : ∃ j, m = .poll j
  · obtain ⟨j, rfl⟩ := hp
    have hj : i ≠ j := fun heq => hm (heq ▸ rfl)
    have herase : Awaits i due { w with ready := w.ready.erase j } :=
      h.imp id fun ⟨hi, hdue⟩ => ⟨(List.mem_erase_of_ne hj).2 hi, hdue⟩
    obtain ⟨more, hmore⟩ := (Wakes.poll { w with ready := w.ready.erase j } j).more
    exact herase.of_ticks (Ticks.poll _ j) fun hi => hmore ▸ List.mem_append_left _ hi
  · have hready := (act_outside w (not_exists.1 hp)).ready
    by_cases hclock : ∃ moment, m = .clock moment
    · obtain ⟨moment, rfl⟩ := hclock
      have hle : w.now ≤ moment := by simpa [Move.goesOn] using hon
      exact h.imp id fun ⟨hi, hdue⟩ => ⟨hi, hdue.trans hle⟩
    by_cases hfire : ∃ moment, m = .fire moment
    · obtain ⟨moment, rfl⟩ := hfire
      have hle : w.now ≤ moment := by simpa [Move.goesOn] using hon
      obtain ⟨more, hw, hmem⟩ := wakeAll_eq
        { w with now := moment, timers := w.timers.filter fun t => moment < t.1 }
        ((w.timers.filter fun t => t.1 ≤ moment).map (·.2))
      rw [World.act, World.fire, hw]
      rcases h with htimer | ⟨hi, hdue⟩
      · by_cases hdue : due ≤ moment
        · refine Or.inr ⟨hmem i (List.mem_map.2 ⟨(due, i), ?_, rfl⟩), hdue⟩
          exact List.mem_filter.2 ⟨htimer, by simpa using hdue⟩
        · exact Or.inl (List.mem_filter.2 ⟨htimer, by simpa using Nat.lt_of_not_le hdue⟩)
      · exact Or.inr ⟨List.mem_append_left _ hi, hdue.trans hle⟩
    exact h.of_ticks (.act w (not_exists.1 hclock) (not_exists.1 hfire)) fun hi => hready hi

end Awaits

end World
end StatusRelay
