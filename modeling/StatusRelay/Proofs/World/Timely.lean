/-
# Virtual time

Time stands still while any task can move, and then goes no further than the next timer. A run of
moves is *timely* if it keeps to that, in whatever order it polls tasks and whatever somebody
outside does meanwhile.

In a timely run nobody is late: a task that set a timer is polled at the moment it was set for, at
no other, unless it is polled for another reason before. No timer is ever past.

Letting time pass by `advance` and `runUntil` is timely, if all tasks come to rest each time they
are polled. Otherwise time moves on in spite of them.
-/

import StatusRelay.Proofs.World.Neighbours

namespace StatusRelay
namespace World

variable {i due : Nat} {w w' : World} {m : Move}

/-- Whether a move lets time pass only while every task waits, and not beyond a timer. -/
def Move.isTimely (w : World) : Move → Bool
  | clock moment | fire moment =>
    w.isSettled && w.now ≤ moment && w.timers.all fun t => moment ≤ t.1
  | _ => true

/-- Whether all the moves do. -/
def timely (w : World) : List Move → Bool
  | [] => true
  | m :: moves => m.isTimely w && (w.act m).timely moves

theorem timely_append (w : World) (moves more : List Move) :
    w.timely (moves ++ more) = (w.timely moves && (w.run moves).timely more) := by
  induction moves generalizing w with
  | nil => rfl
  | cons m moves ih =>
    rw [List.cons_append, timely, ih, timely, Bool.and_assoc]
    rfl

theorem goesOn_of_isTimely (h : m.isTimely w = true) : m.goesOn w = true := by
  cases m <;> simp_all [Move.isTimely, Move.goesOn]

theorem fire_eq (w : World) (moment : Nat) : ∃ more, w.fire moment =
    { w with
      now := moment
      timers := w.timers.filter fun t => moment < t.1
      ready := w.ready ++ more } := by
  obtain ⟨more, hw, -⟩ := wakeAll_eq
    { w with now := moment, timers := w.timers.filter fun t => moment < t.1 }
    ((w.timers.filter fun t => t.1 ≤ moment).map (·.2))
  exact ⟨more, hw⟩

/-- **Time stands still, or all tasks wait** and it goes no further than the next timer. -/
theorem now_act_cases (h : m.isTimely w = true) : (w.act m).now = w.now ∨
    w.ready = [] ∧ w.now ≤ (w.act m).now ∧ ∀ t ∈ w.timers, (w.act m).now ≤ t.1 := by
  by_cases hclock : ∃ moment, m = .clock moment
  · obtain ⟨moment, rfl⟩ := hclock
    right
    simpa [Move.isTimely, isSettled, act, and_assoc] using h
  by_cases hfire : ∃ moment, m = .fire moment
  · obtain ⟨moment, rfl⟩ := hfire
    have hnow : (w.act (.fire moment)).now = moment := by
      obtain ⟨more, hw⟩ := fire_eq w moment
      rw [act, hw]
    right
    rw [hnow]
    simpa [Move.isTimely, isSettled, and_assoc] using h
  · exact Or.inl (Ticks.act w (not_exists.1 hclock) (not_exists.1 hfire)).now

theorem now_le_act (h : m.isTimely w = true) : w.now ≤ (w.act m).now := by
  rcases now_act_cases h with hnow | ⟨-, hle, -⟩
  · exact Nat.le_of_eq hnow.symm
  · exact hle

/-- **Time stands still for whoever is to be polled.** -/
theorem now_act_of_ready (hi : i ∈ w.ready) (h : m.isTimely w = true) :
    (w.act m).now = w.now := by
  rcases now_act_cases h with hnow | ⟨hrest, -⟩
  · exact hnow
  · simp [hrest] at hi

/-- **Time does not pass a task that awaits a moment.** -/
theorem Awaits.now_le (h : Awaits i due w) (hle : w.now ≤ due) (hm : m.isTimely w = true) :
    (w.act m).now ≤ due := by
  rcases h with htimer | ⟨hready, -⟩
  · rcases now_act_cases hm with hnow | ⟨-, -, htimers⟩
    · rwa [hnow]
    · exact htimers _ htimer
  · rwa [now_act_of_ready hready hm]

theorem now_le_run {moves : List Move} (h : w.timely moves = true) : w.now ≤ (w.run moves).now := by
  induction moves generalizing w with
  | nil => exact Nat.le_refl _
  | cons m moves ih =>
    rw [timely, Bool.and_eq_true] at h
    exact (now_le_act h.1).trans (ih h.2)

/-! ### Going on by itself -/

/-- Whether no timer is past. -/
def Upcoming (w : World) : Prop := ∀ t ∈ w.timers, w.now ≤ t.1

theorem Upcoming.of_ticks (h : Upcoming w) (ht : Ticks w w') : Upcoming w' := by
  obtain ⟨more, htimers, hmore⟩ := ht.timers
  intro t hmem
  rw [htimers] at hmem
  rw [ht.now]
  exact (List.mem_append.1 hmem).elim (h t) fun hnew => Nat.le_of_lt (hmore t hnew)

/-- **In virtual time no timer is ever past.** -/
theorem Upcoming.act (h : Upcoming w) (hm : m.isTimely w = true) : Upcoming (w.act m) := by
  by_cases hclock : ∃ moment, m = .clock moment
  · obtain ⟨moment, rfl⟩ := hclock
    simp only [Move.isTimely, Bool.and_eq_true, List.all_eq_true, decide_eq_true_eq] at hm
    exact hm.2
  by_cases hfire : ∃ moment, m = .fire moment
  · obtain ⟨moment, rfl⟩ := hfire
    obtain ⟨more, hw⟩ := fire_eq w moment
    rw [World.act, hw]
    intro t ht
    exact Nat.le_of_lt (of_decide_eq_true (List.mem_filter.1 ht).2)
  · exact h.of_ticks (Ticks.act w (not_exists.1 hclock) (not_exists.1 hfire))

theorem Upcoming.run {moves : List Move} (h : Upcoming w) (hmoves : w.timely moves = true) :
    Upcoming (w.run moves) := by
  induction moves generalizing w with
  | nil => exact h
  | cons m moves ih =>
    rw [timely, Bool.and_eq_true] at hmoves
    exact ih (h.act hmoves.1) hmoves.2

theorem upcoming_run (limit : Nat) (capacity : Option Nat) (providers : List Provider)
    {moves : List Move} (h : (World.new limit capacity providers).timely moves = true) :
    Upcoming ((World.new limit capacity providers).run moves) :=
  Upcoming.run (fun _ ht => by simp [World.new] at ht) h

theorem ticks_polls (w : World) (tasks : List Nat) : Ticks w (w.run (tasks.map .poll)) := by
  induction tasks generalizing w with
  | nil => exact Ticks.refl w
  | cons j tasks ih => exact (Ticks.act w (m := .poll j) (by simp) (by simp)).trans (ih _)

theorem ticks_settle (w : World) : Ticks w w.settle := by
  obtain ⟨tasks, h⟩ := settleAt_eq w patience
  unfold settle
  rw [h]
  exact ticks_polls w tasks

/-- A world comes out of another by itself, in virtual time. -/
def ReachesTimely (w w' : World) : Prop :=
  ∃ moves, (∀ m ∈ moves, m.isInner = true) ∧ w.timely moves = true ∧ w.run moves = w'

namespace ReachesTimely

variable {moment : Nat}

theorem refl (w : World) : ReachesTimely w w := ⟨[], by simp, rfl, rfl⟩

theorem trans {a b c : World} (h : ReachesTimely a b) (h' : ReachesTimely b c) :
    ReachesTimely a c := by
  obtain ⟨moves, hmoves, htimely, rfl⟩ := h
  obtain ⟨more, hmore, htimely', rfl⟩ := h'
  refine ⟨moves ++ more, fun m hm => ?_, ?_, run_append a moves more⟩
  · exact (List.mem_append.1 hm).elim (hmoves m) (hmore m)
  · rw [timely_append, htimely, htimely']
    rfl

theorem act (hinner : m.isInner = true) (h : m.isTimely w = true) : ReachesTimely w (w.act m) :=
  ⟨[m], by simpa using hinner, by simp [timely, h], rfl⟩

theorem polls (w : World) (tasks : List Nat) : ReachesTimely w (w.run (tasks.map .poll)) := by
  induction tasks generalizing w with
  | nil => exact refl w
  | cons j tasks ih => exact (act (m := .poll j) rfl rfl).trans (ih _)

theorem settle (w : World) : ReachesTimely w w.settle := by
  obtain ⟨tasks, h⟩ := settleAt_eq w patience
  unfold World.settle
  rw [h]
  exact polls w tasks

theorem clock (hrest : w.isSettled = true) (hle : w.now ≤ moment)
    (htimers : ∀ t ∈ w.timers, moment ≤ t.1) : ReachesTimely w { w with now := moment } :=
  act (m := .clock moment) rfl (by simpa [Move.isTimely, hrest, hle] using htimers)

theorem fire (h : Upcoming w) (hrest : w.isSettled = true) {next : Nat}
    (hnext : w.nextTimer = some next) :
    w.now ≤ next ∧ ReachesTimely w (w.fire (max w.now next)) := by
  obtain ⟨hmem, hleast⟩ := List.min?_eq_some_iff.1 hnext
  obtain ⟨t, ht, rfl⟩ := List.mem_map.1 hmem
  have hle : w.now ≤ t.1 := h t ht
  rw [Nat.max_eq_right hle]
  refine ⟨hle, act (m := .fire t.1) rfl ?_⟩
  simpa [Move.isTimely, hrest, hle] using fun a b hab => hleast a (List.mem_map_of_mem hab)

/-- **Going to the next timer,** which leaves the timers after it. -/
theorem skip (h : Upcoming w) (hrest : w.isSettled = true) {next : Nat}
    (hnext : w.nextTimer = some next) : ReachesTimely w (w.skip next) ∧ w.now ≤ next ∧
      (w.skip next).now = next ∧ ∀ t ∈ (w.skip next).timers, next < t.1 := by
  obtain ⟨hle, hfire⟩ := fire h hrest hnext
  rw [Nat.max_eq_right hle] at hfire
  obtain ⟨more, hw⟩ := fire_eq w next
  have hticks := ticks_settle (w.fire next)
  obtain ⟨later, htimers, hlater⟩ := hticks.timers
  rw [World.skip, Nat.max_eq_right hle]
  refine ⟨hfire.trans (settle _), hle, by rw [hticks.now, hw], fun t ht => ?_⟩
  rw [htimers, hw] at ht
  rw [hw] at hlater
  exact (List.mem_append.1 ht).elim (fun hold => of_decide_eq_true (List.mem_filter.1 hold).2)
    (hlater t)

theorem upcoming (h : ReachesTimely w w') (hw : Upcoming w) : Upcoming w' := by
  obtain ⟨moves, -, htimely, rfl⟩ := h
  exact hw.run htimely

end ReachesTimely

/-- Whether every world that comes out of one by itself in virtual time comes to rest when its tasks
are polled. -/
def Restful (w : World) : Prop := ∀ w', ReachesTimely w w' → w'.settle.isSettled = true

theorem Restful.reaches (h : Restful w) (hw : ReachesTimely w w') : Restful w' :=
  fun _ h' => h _ (hw.trans h')

namespace ReachesTimely

variable {moment : Nat}

/-- After the first timer every other is later than the moment at which it is gone to, so that the
milliseconds that are left are enough. -/
theorem advanceAt (h : Upcoming w) (hrest : w.isSettled = true) (hrestful : Restful w)
    {most : Nat} (hle : w.now ≤ moment) (hmost : moment - w.now < most ∨
      moment - w.now ≤ most ∧ ∀ t ∈ w.timers, w.now < t.1) :
    ReachesTimely w (w.advanceAt moment most) := by
  induction most generalizing w with
  | zero =>
    have hnow : moment = w.now := by omega
    exact clock hrest hle (hnow ▸ h)
  | succ most ih =>
    unfold World.advanceAt
    split
    · rename_i hnone
      have hnil : w.timers = [] := List.map_eq_nil_iff.1 (List.min?_eq_none_iff.1 hnone)
      exact clock hrest hle (by simp [hnil])
    · rename_i next hnext
      obtain ⟨hmem, hleast⟩ := List.min?_eq_some_iff.1 hnext
      split
      · rename_i hnear
        obtain ⟨hskip, hpast, hnow, hlater⟩ := skip h hrest hnext
        refine hskip.trans (ih (hskip.upcoming h) ?_ (hrestful.reaches hskip) ?_ ?_)
        · exact hrestful _ (fire h hrest hnext).2
        · rw [hnow]
          exact hnear
        · rw [hnow]
          refine Or.inr ⟨?_, hlater⟩
          rcases hmost with hmost | ⟨hmost, hstrict⟩
          · omega
          · obtain ⟨t, ht, rfl⟩ := List.mem_map.1 hmem
            have := hstrict t ht
            omega
      · rename_i hfar
        refine clock hrest hle fun t ht => ?_
        have := hleast t.1 (List.mem_map_of_mem ht)
        omega

/-- **Letting time pass is timely,** if all tasks come to rest each time. -/
theorem advance (h : Upcoming w) (hrestful : Restful w) (ms : Nat) :
    ReachesTimely w (w.advance ms) := by
  have hnow : w.settle.now = w.now := (ticks_settle w).now
  refine (settle w).trans (advanceAt ((settle w).upcoming h) (hrestful w (refl w))
    (hrestful.reaches (settle w)) ?_ (Or.inl ?_))
  · omega
  · omega

theorem runUntilAt (h : Upcoming w) (hrest : w.isSettled = true) (hrestful : Restful w)
    (isOver : World → Bool) {limit : Option Nat} (hle : ∀ moment, limit = some moment →
      w.now ≤ moment) (most : Nat) : ReachesTimely w (w.runUntilAt isOver limit most) := by
  induction most generalizing w with
  | zero => exact refl w
  | succ most ih =>
    have hgo {next : Nat} (hnext : w.nextTimer = some next)
        (hnear : ∀ moment, limit = some moment → next ≤ moment) :
        ReachesTimely w ((w.skip next).runUntilAt isOver limit most) := by
      obtain ⟨hskip, -, hnow, -⟩ := skip h hrest hnext
      refine hskip.trans (ih (hskip.upcoming h) ?_ (hrestful.reaches hskip) ?_)
      · exact hrestful _ (fire h hrest hnext).2
      · rw [hnow]
        exact hnear
    unfold World.runUntilAt
    split
    · exact refl w
    · split
      · exact refl w
      · rename_i moment hnone
        have hnil : w.timers = [] := List.map_eq_nil_iff.1 (List.min?_eq_none_iff.1 hnone)
        exact clock hrest (hle moment rfl) (by simp [hnil])
      · rename_i next hnext
        exact hgo hnext (by simp)
      · rename_i next moment hnext
        split
        · rename_i hnear
          refine hgo hnext fun moment' hlimit => ?_
          obtain rfl := Option.some.inj hlimit
          exact Nat.le_of_lt hnear
        · rename_i hfar
          refine clock hrest (hle moment rfl) fun t ht => ?_
          have := (List.min?_eq_some_iff.1 hnext).2 t.1 (List.mem_map_of_mem ht)
          omega

theorem runUntil (h : Upcoming w) (hrestful : Restful w) (isOver : World → Bool)
    {limit : Option Nat} (hle : ∀ moment, limit = some moment → w.now ≤ moment) :
    ReachesTimely w (w.runUntil isOver limit) := by
  refine (settle w).trans (runUntilAt ((settle w).upcoming h) (hrestful w (refl w))
    (hrestful.reaches (settle w)) isOver ?_ _)
  rw [(ticks_settle w).now]
  exact hle

end ReachesTimely

/-- **Letting time pass after a timely run** goes on with it. -/
theorem timely_advance (limit : Nat) (capacity : Option Nat) (providers : List Provider)
    {moves : List Move} (h : (World.new limit capacity providers).timely moves = true)
    (hrestful : Restful ((World.new limit capacity providers).run moves)) (ms : Nat) :
    ∃ more, (World.new limit capacity providers).timely (moves ++ more) = true ∧
      (World.new limit capacity providers).run (moves ++ more) =
        ((World.new limit capacity providers).run moves).advance ms := by
  obtain ⟨more, -, htimely, hrun⟩ :=
    ReachesTimely.advance (upcoming_run limit capacity providers h) hrestful ms
  refine ⟨more, ?_, by rw [run_append, hrun]⟩
  rw [timely_append, h, htimely]
  rfl

end World
end StatusRelay
