/-
# The pace of a worker

In virtual time a worker that began a fetch at a moment `t` is on a schedule until it asks for a
permit again:

| the worker | up to |
| --- | --- |
| fetches, for `d` | `t + d` |
| publishes, and waits for room for `w` in all | `t + d + w` |
| sleeps for its interval | `t + d + w + interval` |
| asks for a permit, and waits in line if none is free | the next fetch |

`Along` is the invariant: at every moment the time fits the stage. It needs no knowledge of the
others, since their polls and whatever happens outside only let time pass, and time does not pass
the timer of a worker that sleeps. In line the worker depends on others, but it stands in the queue
of tasks from the moment on at which it is handed a permit, and keeps time from passing.
-/

import StatusRelay.Proofs.World.Balance
import StatusRelay.Proofs.World.Course
import StatusRelay.Proofs.World.Joining
import StatusRelay.Proofs.World.Timely

namespace StatusRelay

/-- Whether a worker at this stage waits for the bus. -/
def Stage.isPublishing : Stage → Bool
  | publishing _ => true
  | _ => false

namespace Station

/-- How many fetches of the worker go on. -/
def inFlight : Station → Int
  | fetching => 1
  | _ => 0

/-- The events that were new and have not been published. -/
def unsent : Station → List Event
  | holding pending => pending
  | sending _ rest => rest
  | gone lost _ => lost
  | _ => []

end Station

namespace World

open Occurrence (Entry)

variable {i limit : Nat} {k : Worker} {w x : World}

/-! ### What happens at moves -/

/-- Whether a worker begins a fetch at a move. -/
def beginsAt (i : Nat) (w : World) : Move → Bool
  | .poll j => j == i && w.begins i
  | _ => false

/-- Whether a worker begins a fetch at one of the moves. -/
def beginsIn (i : Nat) (w : World) : List Move → Bool
  | [] => false
  | m :: moves => w.beginsAt i m || (w.act m).beginsIn i moves

/-- How long a worker is at stages of a kind while a move is made. -/
def timeAt (i : Nat) (kind : Stage → Bool) (w : World) (m : Move) : Nat :=
  if (w.stageAt i).any kind then (w.act m).now - w.now else 0

/-- How long a worker is at stages of a kind while moves are made. -/
def timeIn (i : Nat) (kind : Stage → Bool) (w : World) : List Move → Nat
  | [] => 0
  | m :: moves => w.timeAt i kind m + (w.act m).timeIn i kind moves

theorem beginsAt_poll (w : World) (i : Nat) : w.beginsAt i (.poll i) = w.begins i := by
  simp [beginsAt]

theorem beginsIn_append (w : World) (i : Nat) (moves more : List Move) :
    w.beginsIn i (moves ++ more) = (w.beginsIn i moves || (w.run moves).beginsIn i more) := by
  induction moves generalizing w with
  | nil => rfl
  | cons m moves ih =>
    rw [List.cons_append, beginsIn, ih, beginsIn, Bool.or_assoc]
    rfl

/-! ### From one fetch to the next -/

/-- A worker began a fetch at a moment, which came to its end after so many milliseconds, and it has
not asked for a permit since. -/
def Fetched (i : Nat) (name : String) (t d : Nat) (outcome : FetchOutcome) (older : List Entry)
    (w : World) : Prop :=
  outcome ≠ .deadly ∧
    w.turns i = ⟨t + d, i, .fetchEnded name d outcome⟩ :: ⟨t, i, .fetchBegan⟩ :: older

/-- **Where a worker is in time** that began a fetch at a moment, and has published for so long
since. -/
inductive Along (i : Nat) (name : String) (interval t : Nat) (older : List Entry) (spent : Nat)
    (w : World) : Prop
  | fetching {due : Nat} {outcome : FetchOutcome}
    (hs : w.stageAt i = some (.fetching t due outcome))
    (hturns : w.turns i = ⟨t, i, .fetchBegan⟩ :: older) (hspent : spent = 0) (hsince : t ≤ w.now)
  | publishing {pending : List Event} {d : Nat} {outcome : FetchOutcome}
    (hs : w.stageAt i = some (.publishing pending)) (hfetched : Fetched i name t d outcome older w)
    (hnow : w.now = t + d + spent)
  | sleeping {d : Nat} {outcome : FetchOutcome}
    (hs : w.stageAt i = some (.sleeping (t + d + spent + interval)))
    (hfetched : Fetched i name t d outcome older w) (hdue : w.now ≤ t + d + spent + interval)
    (hawaits : Awaits i (t + d + spent + interval) w)
  | ended {stage : Stage} (hs : w.stageAt i = some stage) (hover : stage.isOver = true)

/-- A worker asks for a permit when it is polled, as long after a fetch as it has published and
slept. -/
def AsksAfter (i : Nat) (name : String) (interval t : Nat) (older : List Entry) (spent : Nat)
    (w : World) : Prop :=
  ∃ d outcome, Fetched i name t d outcome older w ∧ w.now = t + d + spent + interval ∧
    w.asks i = true

/-- It does so, and finds none. -/
def QueuesAfter (i : Nat) (name : String) (interval t : Nat) (older : List Entry) (spent : Nat)
    (w : World) : Prop :=
  AsksAfter i name interval t older spent w ∧ w.permits.free = 0 ∧
    (w.act (.poll i)).stageAt i = some .queued

namespace Along

variable {name : String} {interval t spent : Nat} {older : List Entry} {m : Move}

theorem of_relaxes {d : Nat} {outcome : FetchOutcome}
    (hfetched : Fetched i name t d outcome older x) (hnow : x.now = t + d + spent)
    (h : Relaxes i interval x w) : Along i name interval t older spent w := by
  have hdone : Fetched i name t d outcome older w := ⟨hfetched.1, h.turns.trans hfetched.2⟩
  rcases h.stage with ⟨pending, hs⟩ | ⟨hs, hawaits⟩
  · exact .publishing hs hdone (h.now.trans hnow)
  · rw [hnow] at hs hawaits
    refine .sleeping hs hdone ?_ hawaits
    rw [h.now, hnow]
    exact Nat.le_add_right _ _

theorem of_finishes (hturns : x.turns i = ⟨t, i, .fetchBegan⟩ :: older) (hsince : t ≤ x.now)
    (h : Finishes i name interval t x w) : Along i name interval t older 0 w := by
  cases h with
  | dies hs _ => exact .ended hs rfl
  | @lives outcome hlives h =>
    have hlasted : x.now = t + (x.now - t) := (Nat.add_sub_cancel' hsince).symm
    refine of_relaxes ⟨hlives, (turns_note _ _).trans ?_⟩ hlasted h
    rw [hturns, ← hlasted]
    rfl

/-- **A worker begins a fetch.** -/
theorem of_begins (hc : Course i k w (w.act (.poll i))) (hbegins : w.begins i = true) :
    ∃ older, Along i k.name k.interval w.now older 0 (w.act (.poll i)) := by
  obtain ⟨x, hstarts, hx, -⟩ := hc.fetches hbegins
  refine ⟨x.turns i, ?_⟩
  rw [← hx]
  cases hstarts with
  | goesOn hnow hstage hturns => exact .fetching hstage hturns rfl (Nat.le_of_eq hnow.symm)
  | atOnce h => exact of_finishes (turns_note x .fetchBegan) (Nat.le_refl _) h

/-- A worker that waits is polled for nothing. -/
theorem wait (h : Along i name interval t older spent w)
    (hearly : ∀ due, w.stageAt i = some (.sleeping due) → w.now < due) :
    Along i name interval t older spent { w with ready := w.ready.erase i } := by
  cases h with
  | fetching hs hturns hspent hsince => exact .fetching hs hturns hspent hsince
  | publishing hs hfetched hnow => exact .publishing hs hfetched hnow
  | sleeping hs hfetched hdue hawaits =>
    -- Only a moment that has come makes a task stand in the queue.
    exact .sleeping hs hfetched hdue
      (hawaits.imp id fun ⟨_, hpast⟩ => absurd hpast (Nat.not_le_of_lt (hearly _ hs)))
  | ended hs hover => exact .ended hs hover

theorem of_fetching (h : Along i name interval t older spent w) {since due : Nat}
    {outcome : FetchOutcome} (hs : w.stageAt i = some (.fetching since due outcome)) :
    since = t ∧ w.turns i = ⟨t, i, .fetchBegan⟩ :: older ∧ spent = 0 ∧ t ≤ w.now := by
  cases h with
  | fetching hs' hturns hspent hsince =>
    exact ⟨(Stage.fetching.inj (Option.some.inj (hs.symm.trans hs'))).1, hturns, hspent, hsince⟩
  | publishing hs' _ _ | sleeping hs' _ _ _ => simp [hs] at hs'
  | ended hs' hover =>
    obtain rfl := Option.some.inj (hs.symm.trans hs')
    simp [Stage.isOver] at hover

theorem of_publishing (h : Along i name interval t older spent w) {pending : List Event}
    (hs : w.stageAt i = some (.publishing pending)) :
    ∃ d outcome, Fetched i name t d outcome older w ∧ w.now = t + d + spent := by
  cases h with
  | publishing hs' hfetched hnow => exact ⟨_, _, hfetched, hnow⟩
  | fetching hs' _ _ _ | sleeping hs' _ _ _ => simp [hs] at hs'
  | ended hs' hover =>
    obtain rfl := Option.some.inj (hs.symm.trans hs')
    simp [Stage.isOver] at hover

/-- Only a worker that has slept asks for a permit. -/
theorem of_asking (h : Along i name interval t older spent w) {stage : Stage}
    (hs : w.stageAt i = some stage) (hasks : stage.asksAt w.now = true) : ∃ d outcome,
      Fetched i name t d outcome older w ∧ w.now = t + d + spent + interval := by
  cases h with
  | fetching hs' _ _ _ | publishing hs' _ _ =>
    rw [Option.some.inj (hs.symm.trans hs')] at hasks
    simp [Stage.asksAt] at hasks
  | sleeping hs' hfetched hdue hawaits =>
    rw [Option.some.inj (hs.symm.trans hs')] at hasks
    exact ⟨_, _, hfetched, Nat.le_antisymm hdue (by simpa [Stage.asksAt] using hasks)⟩
  | ended hs' hover =>
    obtain rfl := Option.some.inj (hs.symm.trans hs')
    cases stage <;> simp_all [Stage.asksAt, Stage.isOver]

theorem not_queued (h : Along i name interval t older spent w) : w.stageAt i ≠ some .queued := by
  intro hs
  cases h with
  | fetching hs' _ _ _ | publishing hs' _ _ | sleeping hs' _ _ _ => simp [hs] at hs'
  | ended hs' hover =>
    obtain rfl := Option.some.inj (hs.symm.trans hs')
    simp [Stage.isOver] at hover

/-- **The next fetch begins** when the worker asks for a permit. -/
theorem asks_of_begins (h : Along i k.name k.interval t older spent w)
    (hk : w.tasks[i]? = some (.worker k)) (hc : Course i k w (w.act (.poll i)))
    (hbegins : w.begins i = true) : AsksAfter i k.name k.interval t older spent w := by
  have hs := stageAt_of_worker hk
  obtain ⟨x, hstarts, hx, ⟨hasks, hasked⟩ | hstage⟩ := hc.fetches hbegins
  · obtain ⟨d, outcome, hfetched, hnow⟩ := h.of_asking hs hasks
    obtain ⟨more, hturns⟩ := hstarts.turns
    have hall : (w.act (.poll i)).turns i =
        (more ++ [⟨x.now, i, .fetchBegan⟩, ⟨w.now, i, .asked⟩]) ++ w.turns i := by
      rw [hturns, hasked, List.append_assoc]
      rfl
    exact ⟨d, outcome, hfetched, hnow, (asks_eq hall).trans (by simp)⟩
  · exact absurd (hs.trans (congrArg some hstage)) h.not_queued

/-- **A worker is polled** and begins no fetch: it goes on as it should, or it asks in vain. -/
theorem poll (h : Along i k.name k.interval t older spent w) (hk : w.tasks[i]? = some (.worker k))
    (hc : Course i k w (w.act (.poll i))) (hnone : w.begins i = false) :
    Along i k.name k.interval t older spent (w.act (.poll i)) ∨
      QueuesAfter i k.name k.interval t older spent w := by
  have hs := stageAt_of_worker hk
  cases hc with
  | waits hw hearly =>
    left
    rw [hw]
    exact h.wait fun due hs' => hearly due (Option.some.inj (hs.symm.trans hs'))
  | joins hasks hfree hstage hturns =>
    obtain ⟨d, outcome, hfetched, hnow⟩ := h.of_asking hs hasks
    exact Or.inr ⟨⟨d, outcome, hfetched, hnow, asks_eq (l := [_]) hturns⟩, hfree, hstage⟩
  | @begins x hstarts hx hpermit =>
    have hbegins : w.begins i = true := by
      rcases hpermit with ⟨-, -, hasked⟩ | ⟨-, hsame⟩
      · exact hstarts.begins (l := [_]) hasked
      · exact hstarts.begins (l := []) hsame
    simp [hnone] at hbegins
  | finishes hstage hf =>
    obtain ⟨rfl, hturns, rfl, hsince⟩ := h.of_fetching (hs.trans (congrArg some hstage))
    exact Or.inl (of_finishes hturns hsince hf)
  | publishes hstage hr =>
    obtain ⟨d, outcome, hfetched, hnow⟩ := h.of_publishing (hs.trans (congrArg some hstage))
    exact Or.inl (of_relaxes hfetched hnow hr)
  | ends hstage hturns => exact Or.inl (.ended hstage rfl)

end Along

/-! ### Other moves -/

section Moves

variable {name : String} {interval t spent : Nat} {older : List Entry} {m : Move}

/-- **A task that is not polled stays as it is,** and nothing is told of it. -/
theorem unmoved_act (hm : m ≠ .poll i) (hi : i < w.tasks.length) :
    (w.act m).tasks[i]? = w.tasks[i]? ∧ (w.act m).turns i = w.turns i := by
  by_cases hp : ∃ j, m = .poll j
  · obtain ⟨j, rfl⟩ := hp
    have hj : i ≠ j := fun h => hm (congrArg Move.poll h.symm)
    refine ⟨(Apart.poll { w with ready := w.ready.erase j } j).others i hj, ?_⟩
    exact congrArg (List.filter _) (ofTask_poll_ne { w with ready := w.ready.erase j } hj)
  · have ho := act_outside w (not_exists.1 hp)
    exact ⟨by rw [ho.tasks, List.getElem?_append_left hi], turns_congr ho.log⟩

theorem stageAt_act_of_ne {stage : Stage} (hm : m ≠ .poll i) (hs : w.stageAt i = some stage) :
    (w.act m).stageAt i = some stage ∧ (w.act m).turns i = w.turns i := by
  obtain ⟨k, hk, -⟩ := exists_worker_of_stageAt hs
  obtain ⟨htask, hturns⟩ := unmoved_act hm (List.getElem?_eq_some_iff.1 hk).1
  exact ⟨(stageAt_congr htask).trans hs, hturns⟩

/-- A worker that has come to its end begins nothing any more. -/
theorem begins_of_over {stage : Stage} (hs : w.stageAt i = some stage) (hover : stage.isOver = true)
    (moves : List Move) : (w.run moves).begins i = false := by
  obtain ⟨k, hk, rfl⟩ := exists_worker_of_stageAt hs
  have hstays : (w.run moves).tasks[i]? = some (.worker k) := by
    clear hs
    induction moves generalizing w with
    | nil => exact hk
    | cons m moves ih => exact ih (w := w.act m) (getElem?_act_of_over m hk hover)
  refine begins_eq (l := []) ?_
  have hpoll : (w.run moves).act (.poll i) =
      { w.run moves with ready := (w.run moves).ready.erase i } :=
    poll_of_over fun t ht => by
      obtain rfl := Option.some.inj (hstays.symm.trans ht)
      exact hover
  rw [hpoll]
  rfl

theorem roster_stays {task : Task} (h : w.roster[i]? = some task) (moves : List Move) :
    (w.run moves).roster[i]? = some task := by
  obtain ⟨more, hmore, -⟩ := roster_run w moves
  rw [hmore, List.getElem?_append_left (List.getElem?_eq_some_iff.1 h).1]
  exact h

/-- A worker keeps its name and its interval. -/
theorem worker_of_roster (hk : w.roster[i]? = some (.worker k)) :
    ∃ k', w.tasks[i]? = some (.worker k') ∧ k'.name = k.name ∧ k'.interval = k.interval := by
  obtain ⟨task, htask, hfresh⟩ := getElem?_of_roster hk
  cases task with
  | worker k' =>
    have hk' : k'.fresh = k := Task.worker.inj hfresh
    exact ⟨k', htask, by rw [← hk']; rfl, by rw [← hk']; rfl⟩
  | _ => simp [Task.fresh] at hfresh

/-- A poll takes no time. -/
theorem timeAt_poll (w : World) (i : Nat) (kind : Stage → Bool) :
    w.timeAt i kind (.poll i) = 0 := by
  rw [timeAt, (Ticks.act w (m := .poll i) (by simp) (by simp)).now, Nat.sub_self, ite_self]

namespace Along

/-- **Other moves** only let time pass. -/
theorem act (h : Along i name interval t older spent w) (hm : m ≠ .poll i)
    (htimely : m.isTimely w = true) :
    Along i name interval t older (spent + w.timeAt i Stage.isPublishing m) (w.act m) := by
  have hpasses := now_le_act htimely
  cases h with
  | fetching hs hturns hspent hsince =>
    obtain ⟨hs', hsame⟩ := stageAt_act_of_ne hm hs
    refine .fetching hs' (hsame.trans hturns) ?_ (hsince.trans hpasses)
    simp [timeAt, hs, Stage.isPublishing, hspent]
  | publishing hs hfetched hnow =>
    obtain ⟨hs', hsame⟩ := stageAt_act_of_ne hm hs
    refine .publishing hs' ⟨hfetched.1, hsame.trans hfetched.2⟩ ?_
    rw [timeAt, hs, Option.any_some, Stage.isPublishing, if_pos rfl]
    omega
  | sleeping hs hfetched hdue hawaits =>
    obtain ⟨hs', hsame⟩ := stageAt_act_of_ne hm hs
    have hnone : w.timeAt i Stage.isPublishing m = 0 := by simp [timeAt, hs, Stage.isPublishing]
    rw [hnone]
    exact .sleeping hs' ⟨hfetched.1, hsame.trans hfetched.2⟩ (hawaits.now_le hdue htimely)
      (hawaits.act hm (goesOn_of_isTimely htimely))
  | ended hs hover => exact .ended (stageAt_act_of_ne hm hs).1 hover

/-- **Whatever move is made,** a worker that begins no fetch is where it should be, or it asks for a
permit in vain. -/
theorem move (hk : w.roster[i]? = some (.worker k)) (hopened : w.permits.closed = false)
    (h : Along i k.name k.interval t older spent w) (htimely : m.isTimely w = true)
    (hnone : w.beginsAt i m = false) :
    Along i k.name k.interval t older (spent + w.timeAt i Stage.isPublishing m) (w.act m) ∨
      m = .poll i ∧ QueuesAfter i k.name k.interval t older spent w := by
  by_cases hm : m = .poll i
  · subst hm
    obtain ⟨k', htask, hname, hinterval⟩ := worker_of_roster hk
    rw [timeAt_poll, ← hname, ← hinterval]
    rw [← hname, ← hinterval] at h
    rw [beginsAt_poll] at hnone
    exact (h.poll htask (.poll hopened htask) hnone).imp id fun hqueues => ⟨rfl, hqueues⟩
  · exact Or.inl (h.act hm htimely)

/-- **From the beginning of a fetch on,** until it asks for a permit in vain, a worker that begins
no other fetch is where it should be. -/
theorem run (hk : w.roster[i]? = some (.worker k)) (haccounts : Accounts limit none 0 0 w)
    (h : Along i k.name k.interval t older spent w) {moves : List Move}
    (htimely : w.timely moves = true) (hnone : w.beginsIn i moves = false) :
    Along i k.name k.interval t older (spent + w.timeIn i Stage.isPublishing moves)
        (w.run moves) ∨
      ∃ before after, moves = before ++ .poll i :: after ∧
        QueuesAfter i k.name k.interval t older (spent + w.timeIn i Stage.isPublishing before)
          (w.run before) := by
  induction moves generalizing w spent with
  | nil => exact Or.inl h
  | cons m moves ih =>
    rw [timely, Bool.and_eq_true] at htimely
    rw [beginsIn, Bool.or_eq_false_iff] at hnone
    rcases h.move hk haccounts.opened htimely.1 hnone.1 with h | ⟨rfl, hqueues⟩
    · rw [timeIn, ← Nat.add_assoc]
      rcases ih (roster_stays hk [m]) (haccounts.act m) h htimely.2 hnone.2 with
        h | ⟨before, after, rfl, hqueues⟩
      · exact Or.inl h
      · refine Or.inr ⟨m :: before, after, rfl, ?_⟩
        rw [timeIn, ← Nat.add_assoc]
        exact hqueues
    · exact Or.inr ⟨[], moves, rfl, hqueues⟩

end Along

/-! ### In line -/

/-- **A permit that was handed to a worker** is kept for it. -/
theorem mem_given_act (h : Accounts limit none 0 0 w) (hi : i ∈ w.permits.given)
    (hm : m ≠ .poll i) : i ∈ (w.act m).permits.given := by
  have hline : i ∉ w.permits.line := fun hl => (List.nodup_append.1 h.nodup).2.2 i hl i hi rfl
  rcases act_cases w m with ⟨j, rfl, -⟩ | houtside
  · have hkeeps {n : Nat} (hp : Passes j n w (w.act (.poll j))) :
        i ∈ (w.act (.poll j)).permits.given := by
      have hs := stageAt_act_of_ne hm ((h.waiting i).1 (List.mem_append_right _ hi)).2
      rcases List.mem_append.1 (((h.act _).waiting i).2 ⟨by simp, hs.1⟩) with hl | hg
      · exact absurd (hp.line i hl).1 hline
      · exact hg
    cases Turn.poll h j with
    | idle hp _ => exact hkeeps hp
    | begun hp _ _ => exact hkeeps hp
    | joined hp _ _ =>
      rw [show (w.act (.poll j)).permits = w.permits.join j from hp]
      exact hi
  · rw [houtside.permits]
    exact hi

/-- **A worker in line is polled.** It begins a fetch, or waits as before, or was told to stop. -/
theorem poll_of_queued (h : Accounts limit none 0 0 w) (hs : w.stageAt i = some .queued) :
    w.begins i = true ∨ w.act (.poll i) = { w with ready := w.ready.erase i } ∨
      (w.act (.poll i)).stageAt i = some .cancelled := by
  obtain ⟨k, hk, hqueued⟩ := exists_worker_of_stageAt hs
  cases Course.poll h.opened hk with
  | waits hw _ => exact Or.inr (Or.inl hw)
  | joins hasks _ _ _ => simp [hqueued, Stage.asksAt] at hasks
  | begins hstarts _ hpermit =>
    rcases hpermit with ⟨hasks, -⟩ | ⟨-, hsame⟩
    · simp [hqueued, Stage.asksAt] at hasks
    · exact Or.inl (hstarts.begins (l := []) hsame)
  | finishes hstage _ => simp [hqueued] at hstage
  | publishes hstage _ => simp [hqueued] at hstage
  | ends hstage _ => exact Or.inr (Or.inr hstage)

/-- A worker in line stays there until it begins a fetch. -/
theorem queued_run (h : Accounts limit none 0 0 w) (hs : w.stageAt i = some .queued)
    {moves : List Move} (hnone : w.beginsIn i moves = false) (more : List Move)
    (hbegins : (w.run (moves ++ more)).begins i = true) :
    (w.run moves).stageAt i = some .queued := by
  induction moves generalizing w with
  | nil => exact hs
  | cons m moves ih =>
    rw [beginsIn, Bool.or_eq_false_iff] at hnone
    have hstays : (w.act m).stageAt i = some .queued := by
      by_cases hm : m = .poll i
      · subst hm
        rw [beginsAt_poll] at hnone
        rcases poll_of_queued h hs with hb | hw | hover
        · simp [hnone.1] at hb
        · rw [hw]
          exact hs
        · have hnever := begins_of_over hover rfl (moves ++ more)
          simp [show ((w.act (.poll i)).run (moves ++ more)).begins i = true from hbegins] at hnever
      · exact (stageAt_act_of_ne hm hs).1
    exact ih (h.act m) hstays hnone.2 hbegins

/-- **Time stands still from the moment on** at which a worker is handed a permit, until it begins
a fetch. -/
theorem now_run_of_given (h : Accounts limit none 0 0 w) (hi : i ∈ w.permits.given)
    {moves : List Move} (htimely : w.timely moves = true) (hnone : w.beginsIn i moves = false)
    (hbegins : (w.run moves).begins i = true) : (w.run moves).now = w.now := by
  induction moves generalizing w with
  | nil => rfl
  | cons m moves ih =>
    rw [timely, Bool.and_eq_true] at htimely
    rw [beginsIn, Bool.or_eq_false_iff] at hnone
    have hm : m ≠ .poll i := by
      rintro rfl
      rw [beginsAt_poll] at hnone
      rcases poll_of_queued h ((h.waiting i).1 (List.mem_append_right _ hi)).2 with hb | hw | hover
      · simp [hnone.1] at hb
      · obtain ⟨more, hlog⟩ := log_act_given h hi
        have hlength := congrArg List.length hlog
        simp [hw] at hlength
        omega
      · have hnever := begins_of_over hover rfl moves
        simp [show ((w.act (.poll i)).run moves).begins i = true from hbegins] at hnever
    have hnext := ih (h.act m) (mem_given_act h hi hm) htimely.2 hnone.2 hbegins
    exact hnext.trans (now_act_of_ready (h.given i hi) htimely.1)

theorem now_run_of_served (h : Accounts limit none 0 0 w) (hs : w.stageAt i = some .queued)
    (hserved : 0 < w.permits.free ∨ i ∈ w.permits.given)
    {moves : List Move} (htimely : w.timely moves = true) (hnone : w.beginsIn i moves = false)
    (hbegins : (w.run moves).begins i = true) : (w.run moves).now = w.now := by
  refine now_run_of_given h (hserved.elim (fun hfree => ?_) id) htimely hnone hbegins
  -- Nobody is in line while a permit is free.
  rcases List.mem_append.1 ((h.waiting i).2 ⟨by simp, hs⟩) with hline | hgiven
  · exact absurd (h.scarce (List.ne_nil_of_mem hline)) (Nat.ne_of_gt hfree)
  · exact hgiven

/-- **A worker that asks in vain** begins a fetch at the moment at which it is handed a permit. -/
theorem QueuesAfter.now_of_served (hqueues : QueuesAfter i name interval t older spent w)
    (h : Accounts limit none 0 0 w) {moves more rest : List Move}
    (htimely : w.timely (.poll i :: moves) = true)
    (hnone : w.beginsIn i (.poll i :: moves) = false)
    (hbegins : (w.run (.poll i :: moves)).begins i = true)
    (heq : .poll i :: moves = more ++ rest)
    (hserved : 0 < (w.run more).permits.free ∨ i ∈ (w.run more).permits.given) :
    (w.run (.poll i :: moves)).now = (w.run more).now := by
  rw [heq, run_append] at hbegins ⊢
  rw [heq, timely_append, Bool.and_eq_true] at htimely
  rw [heq, beginsIn_append, Bool.or_eq_false_iff] at hnone
  have hs : (w.run more).stageAt i = some .queued := by
    cases more with
    | nil =>
      refine hserved.elim (fun hfree => absurd hqueues.2.1 (Nat.ne_of_gt hfree)) fun hgiven => ?_
      exact ((h.waiting i).1 (List.mem_append_right _ hgiven)).2
    | cons m more =>
      obtain ⟨rfl, rfl⟩ := List.cons.inj heq
      have hlater := hnone.1
      rw [beginsIn, Bool.or_eq_false_iff] at hlater
      refine queued_run (h.act _) hqueues.2.2 hlater.2 rest ?_
      rw [run_append]
      exact hbegins
  exact now_run_of_served (h.run more) hs hserved htimely.2 hnone.2 hbegins

end Moves

/-! ### Between fetches -/

open Occurrence (fresh sent)
open Station (Path Step)

section Stations

variable {log l : List Entry} {s s' : Station} {what : Occurrence}

/-- Every part of a record leads from the same station. -/
theorem path_of_suffix (h : Path s log s') (hl : l <:+ log) : ∃ s'', Path s l s'' := by
  induction h with
  | nil => exact List.suffix_nil.1 hl ▸ ⟨s, .nil⟩
  | cons e hpath hstep ih =>
    rcases List.suffix_cons_iff.1 hl with rfl | hl
    · exact ⟨_, .cons e hpath hstep⟩
    · exact ih hl

theorem inFlight_of_path (h : Path (.holding []) log s) : inFlight log = s.inFlight := by
  induction h with
  | nil => rfl
  | cons e _ hstep ih =>
    rw [inFlight_cons, ih]
    generalize e.what = what at hstep
    cases hstep <;> rfl

theorem unsent_of_step (h : Step s what s') : s.unsent ++ fresh what = sent what ++ s'.unsent := by
  cases h <;> simp [Station.unsent, fresh, sent]

/-- **What was new has been published,** but for what a worker has yet to publish or gave up. -/
theorem fresh_of_path (h : Path (.holding []) log s) :
    eventsIn fresh log = eventsIn sent log ++ s.unsent := by
  induction h with
  | nil => rfl
  | cons e _ hstep ih =>
    rw [eventsIn_cons, eventsIn_cons, ih, List.append_assoc, unsent_of_step hstep,
      List.append_assoc]

theorem waiting_of_begin (h : Step s what s') (hbegan : what = .fetchBegan) : s = .waiting := by
  subst hbegan
  cases h
  rfl

end Stations

/-! ### The pace -/

/-- **Between two fetches in succession** a worker asks for a permit, as long after the first as it
has published and slept. It begins the second at once if a permit is free, and otherwise waits for
one, but no longer than until it is handed one. -/
theorem asks_between {between : List Move} (haccounts : Accounts limit none 0 0 w)
    (hk : w.tasks[i]? = some (.worker k)) (htimely : w.timely (.poll i :: between) = true)
    (hfirst : w.begins i = true) (hnone : (w.act (.poll i)).beginsIn i between = false)
    (hsecond : (w.run (.poll i :: between)).begins i = true) :
    ∃ older before waiting, between = before ++ waiting ∧
      (waiting ++ [Move.poll i]).head? = some (.poll i) ∧
      AsksAfter i k.name k.interval w.now older
        (w.timeIn i Stage.isPublishing (.poll i :: before)) (w.run (.poll i :: before)) ∧
      ∀ more rest, waiting = more ++ rest →
        let x := (w.run (.poll i :: before)).run more
        0 < x.permits.free ∨ i ∈ x.permits.given → (w.run (.poll i :: between)).now = x.now := by
  obtain ⟨older, halong⟩ := Along.of_begins (.poll haccounts.opened hk) hfirst
  have hroster : (w.act (.poll i)).roster[i]? = some (.worker k.fresh) :=
    roster_stays (roster_of_getElem? hk) [.poll i]
  have htime (before : List Move) : w.timeIn i Stage.isPublishing (.poll i :: before) =
      0 + (w.act (.poll i)).timeIn i Stage.isPublishing before := by
    rw [timeIn, timeAt_poll]
  rw [timely, Bool.and_eq_true] at htimely
  rcases halong.run hroster (haccounts.act _) htimely.2 hnone with
    hb | ⟨before, after, rfl, hqueues⟩
  · -- It asks in the poll in which it begins the second fetch.
    obtain ⟨k', hk', hname, hinterval⟩ := worker_of_roster (roster_stays hroster between)
    have hopened := ((haccounts.act (.poll i)).run between).opened
    refine ⟨older, between, [], (List.append_nil _).symm, rfl, ?_, ?_⟩
    · rw [htime, ← show k'.name = k.name from hname, ← show k'.interval = k.interval from hinterval]
      rw [← hname, ← hinterval] at hb
      exact hb.asks_of_begins hk' (.poll hopened hk') hsecond
    · intro more rest heq x _
      obtain ⟨rfl, -⟩ := List.append_eq_nil_iff.1 heq.symm
      rfl
  · -- It joins the line in a poll before.
    have hb : w.run (.poll i :: (before ++ .poll i :: after)) =
        (w.run (.poll i :: before)).run (.poll i :: after) := run_append w (.poll i :: before) _
    rw [timely_append, Bool.and_eq_true] at htimely
    rw [beginsIn_append, Bool.or_eq_false_iff] at hnone
    rw [hb] at hsecond ⊢
    refine ⟨older, before, .poll i :: after, rfl, rfl, ?_, fun more rest heq => ?_⟩
    · rw [htime]
      exact hqueues.1
    · exact hqueues.now_of_served ((haccounts.act _).run before) htimely.2.2 hnone.2 hsecond heq

/-- **Every worker keeps its pace,** whatever the others do and whoever takes the events.

* In virtual time, let a worker begin a fetch at the world `a`, another at `b`, and none between.
  Then the first did not take it down, and the worker asks for a permit at a world `c` between the
  two, or at `b`. From `a` to `c` it has fetched, published, and slept for its interval: there is
  nothing else that it spends time with.
* It begins the second fetch no earlier. From the first moment on at which a permit is free, or was
  handed to it, no time passes before.
* One fetch of it goes on at most. When it begins one, all the events are published that it has
  found to be new. -/
theorem cadence (limit : Nat) (capacity : Option Nat) (providers : List Provider) (i : Nat) :
    (∀ earlier between k,
      let a := (World.new limit capacity providers).run earlier
      let b := a.run (.poll i :: between)
      (World.new limit capacity providers).timely (earlier ++ .poll i :: between) = true →
      a.tasks[i]? = some (.worker k) →
      a.begins i = true → (a.act (.poll i)).beginsIn i between = false → b.begins i = true →
        ∃ p d outcome older before waiting, providers[k.source]? = some p ∧
          between = before ++ waiting ∧ (waiting ++ [Move.poll i]).head? = some (.poll i) ∧
          let c := a.run (.poll i :: before)
          c.asks i = true ∧ outcome ≠ .deadly ∧
          c.turns i =
            ⟨a.now + d, i, .fetchEnded p.name d outcome⟩ :: ⟨a.now, i, .fetchBegan⟩ :: older ∧
          c.now = a.now + d + a.timeIn i Stage.isPublishing (.poll i :: before) + p.interval ∧
          c.now ≤ b.now ∧
          ∀ more rest, waiting = more ++ rest →
            let x := c.run more
            0 < x.permits.free ∨ i ∈ x.permits.given → b.now = x.now) ∧
    (∀ moves k,
      let w := (World.new limit capacity providers).run moves
      w.tasks[i]? = some (.worker k) →
        (∀ earlier, earlier <:+ ofTask i w.log → inFlight earlier = 0 ∨ inFlight earlier = 1) ∧
        ∀ time earlier, ⟨time, i, .fetchBegan⟩ :: earlier <:+ ofTask i w.log →
          inFlight earlier = 0 ∧ eventsIn sent earlier = eventsIn fresh earlier) := by
  constructor
  · intro earlier between k a b htimely hk hfirst hnone hsecond
    have haccounts : Accounts limit none 0 0 a := (Accounts.initial limit capacity providers).run _
    rw [timely_append, Bool.and_eq_true] at htimely
    obtain ⟨p, hp, hname, hinterval⟩ := provider_of_worker limit capacity providers earlier hk
    obtain ⟨older, before, waiting, rfl, hnext, ⟨d, outcome, hfetched, hnow, hasks⟩, hserved⟩ :=
      asks_between haccounts hk htimely.2 hfirst hnone hsecond
    rw [hname] at hfetched
    rw [hinterval] at hnow
    refine ⟨p, d, outcome, older, before, waiting, hp, rfl, hnext, hasks, hfetched.1, hfetched.2,
      hnow, ?_, hserved⟩
    have hlater := htimely.2
    rw [← List.cons_append, timely_append, Bool.and_eq_true] at hlater
    exact (now_le_run hlater.2).trans (Nat.le_of_eq (by rw [← run_append]; rfl))
  · intro moves k w hk
    obtain ⟨s, hpath⟩ : ∃ s, Path (.holding []) (ofTask i w.log) s := by
      rcases reads_run limit capacity providers moves i k.stage (stageAt_of_worker hk) with
        hpath | ⟨-, lost, abandoned, hpath, -⟩
      · exact ⟨_, hpath⟩
      · exact ⟨_, hpath⟩
    refine ⟨fun earlier hearlier => ?_, fun time earlier hearlier => ?_⟩
    · obtain ⟨s', hpart⟩ := path_of_suffix hpath hearlier
      rw [inFlight_of_path hpart]
      cases s' <;> simp [Station.inFlight]
    · obtain ⟨s', hpart⟩ := path_of_suffix hpath hearlier
      cases hpart with
      | cons _ hpart hstep =>
        obtain rfl := waiting_of_begin hstep rfl
        exact ⟨inFlight_of_path hpart, by rw [fresh_of_path hpart]; simp [Station.unsent]⟩

/-- Two events are fetched up to 3, and there is room for the second at 7, so that the worker asks
for a permit at 12. The other worker has it up to 14. -/
theorem cadence_of_line :
    let event := fun id : String => (⟨id, "a", "", "", default⟩ : Event)
    let slow : Provider :=
      { name := "a", interval := 5
        fetch := fun _ => { delay := 3, outcome := .events [event "1", event "2"] } }
    let busy : Provider := { name := "b", interval := 1, fetch := fun _ => { delay := 5 } }
    let between : List Move := [.poll 1, .fire 3, .poll 0, .poll 1, .clock 7, .take 0, .poll 0,
      .fire 8, .poll 1, .fire 9, .poll 1, .fire 12, .poll 0, .fire 14, .poll 1]
    let start := World.new 1 (some 1) [slow, busy]
    let a := start.run [.subscribe, .start]
    let b := a.run (.poll 0 :: between)
    let c := a.run (.poll 0 :: between.take 12)
    start.timely ([.subscribe, .start] ++ .poll 0 :: between) = true ∧
      a.begins 0 = true ∧ (a.act (.poll 0)).beginsIn 0 between = false ∧ b.begins 0 = true ∧
      (∃ d before waiting, between = before ++ waiting ∧
        let asking := a.run (.poll 0 :: before)
        asking.asks 0 = true ∧
          asking.now = a.now + d + a.timeIn 0 Stage.isPublishing (.poll 0 :: before) + 5 ∧
          asking.now ≤ b.now) ∧
      c.asks 0 = true ∧ a.timeIn 0 Stage.isPublishing (.poll 0 :: between.take 12) = 4 ∧
      c.now = 12 ∧ b.now = 14 := by
  intro event slow busy between start a b c
  have htimely : start.timely ([.subscribe, .start] ++ .poll 0 :: between) = true := by decide
  have hfirst : a.begins 0 = true := by decide
  have hnone : (a.act (.poll 0)).beginsIn 0 between = false := by decide
  have hsecond : b.begins 0 = true := by decide
  have hk : a.tasks[0]? = some (.worker (.ofProvider 0 0 slow)) := rfl
  obtain ⟨p, d, outcome, older, before, waiting, hp, hbetween, -, hasks, -, -, hnow, hle, -⟩ :=
    (cadence 1 (some 1) [slow, busy] 0).1 [.subscribe, .start] between _ htimely hk hfirst hnone
      hsecond
  obtain rfl : slow = p := Option.some.inj hp
  exact ⟨htimely, hfirst, hnone, hsecond, ⟨d, before, waiting, hbetween, hasks, hnow, hle⟩,
    by decide, by decide, by decide, by decide⟩

end World
end StatusRelay
