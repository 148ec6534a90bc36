/-
# What subscribers do to each other

On an unbounded bus, nothing. A publish finds room in every queue, so it is completed in the step
in which it was called, whoever is slow. And a subscription sees publishes, the end of the bus and
what is done with itself:

| operation | the view of `s` |
| --- | --- |
| `publish` | one event more, if the subscription exists |
| `subscribe` | empty for the new queue |
| `unsubscribe`, `recv`, `tryRecv` of `s` | as it says |
| those of another subscription | as before |
| `close` | as before, but `s` learns that no more will come |

So two sessions that differ in what is done with other subscriptions cannot be told apart through
`s`. The number of deliveries that a publish returns can differ, and the statistics can.
-/

import StatusRelay.Proofs.Bus.Backpressure
import StatusRelay.Proofs.Bus.Cancellation

namespace StatusRelay
namespace Bus

/-- Whether an operation can matter to a subscription: it is a publish, a subscribe or the end of
the bus, or it is done with the subscription. -/
def Op.concerns (s : Nat) : Op → Bool
  | .publish .. | .subscribe | .close => true
  | .unsubscribe id | .recv id | .tryRecv id => id == s
  | .poll _ | .cancel _ | .stats => false

/-- The replies of a settled session to the operations that can matter to a subscription. -/
def repliesFor (s : Nat) (b : Bus) (ops : List Op) : List Reply :=
  ((ops.zip (b.runSettled ops).1).filter fun r => r.1.concerns s).map (·.2.1)

/-! ### A subscription by itself -/

/-- All that a subscription has of a bus. -/
structure View where
  /-- Whether anyone can still publish or subscribe. -/
  isOpen : Bool
  /-- The number of the next subscription. -/
  nextId : Nat
  /-- The events in the queue, if the subscription exists. -/
  contents : Option (List Event)
  deriving DecidableEq, Repr

/-- What a subscription has of a bus. -/
def view (s : Nat) (b : Bus) : View := ⟨b.isOpen, b.nextId, b.contents s⟩

namespace View

/-- What a receiver finds, and what is there afterwards. -/
def take (v : View) : Option (Taken × View) :=
  v.contents.map fun
    | [] => (if v.isOpen then .nothing else .closed, v)
    | e :: es => (.event e, { v with contents := some es })

/-- One operation, as a subscription sees it that has an unbounded bus for itself. -/
def step (s : Nat) (v : View) : Op → Reply × View
  | .publish _ event =>
    if v.isOpen then (.done, { v with contents := v.contents.map (· ++ [event]) })
    else (.refused, v)
  | .subscribe =>
    if v.isOpen then (.subscribed v.nextId, { v with
      nextId := v.nextId + 1
      contents := if s = v.nextId then some [] else v.contents })
    else (.refused, v)
  | .unsubscribe _ =>
    if v.contents.isSome then (.done, { v with contents := none }) else (.refused, v)
  | .recv _ => (v.take.map fun r => (.received r.1, r.2)).getD (.refused, v)
  | .tryRecv _ => (v.take.map fun r => (.tried r.1.event?, r.2)).getD (.refused, v)
  | .close => if v.isOpen then (.done, { v with isOpen := false }) else (.refused, v)
  | .poll _ | .cancel _ | .stats => (.refused, v)

/-- The replies to operations. -/
def replies (s : Nat) (v : View) : List Op → List Reply
  | [] => []
  | op :: ops => (v.step s op).1 :: replies s (v.step s op).2 ops

end View

/-! ### Unbounded buses -/

/-- An unbounded bus on which no publish is under way. -/
structure Calm (b : Bus) : Prop where
  sound : b.Sound
  unbounded : b.capacity = none
  free : b.gate = .free

namespace Calm

variable {b : Bus}

theorem new : (Bus.new none).Calm := ⟨Sound.new none, rfl, rfl⟩

theorem pending_eq_nil (h : b.Calm) : b.pending = [] := h.sound.pending_eq_nil_iff.2 h.free

theorem waiting_eq_nil (h : b.Calm) : b.waiting = [] := by
  rw [waiting_eq, h.pending_eq_nil, List.map_nil]

theorem isGone_eq (h : b.Calm) : b.isGone = !b.isOpen := by
  simp [isGone, isBusy, h.free, Gate.holder?, h.sound.line h.free]

/-- There is no publish to give up. -/
theorem cancel_eq (h : b.Calm) (ticket : Nat) : b.cancel ticket = (false, b, []) :=
  Sound.cancel_none (by simp [h.waiting_eq_nil])

/-- **A publish is completed at once:** the bus is calm again, and every subscription that exists
has one event more. -/
theorem publish (h : b.Calm) (hopen : b.isOpen = true) (ticket : Nat) (event : Event) :
    ∃ count, (b.performSettled (.publish ticket event)).1 = (.done, [(ticket, count)]) ∧
      (b.performSettled (.publish ticket event)).2.Calm ∧
      (b.performSettled (.publish ticket event)).2.isOpen = true ∧
      (b.performSettled (.publish ticket event)).2.nextId = b.nextId ∧
      ∀ x, (b.performSettled (.publish ticket event)).2.contents x =
        (b.contents x).map (· ++ [event]) := by
  have hticket : ticket ∉ b.waiting := by simp [h.waiting_eq_nil]
  have hb := h.sound.request event hticket
  have hrequest : b.request ticket event = { b with gate := .granted ⟨ticket, event⟩ } := by
    unfold request
    rw [h.free]
  have hr : (b.request ticket event).start? = some ⟨⟨ticket, event⟩, b.ids, [], []⟩ := by
    rw [hrequest]
    rfl
  have hw := aheadOf_of_unbounded (b := b.request ticket event) (by rw [hrequest]; exact h.unbounded)
    ⟨⟨ticket, event⟩, b.ids, [], []⟩
  obtain ⟨hdone, hbare, hpending, -⟩ := hb.deliver hr hw
  have hfree : (b.request ticket event).drive.1.gate = .free := by
    rw [← hb.drive.pending_eq_nil_iff, hpending, hrequest]
    exact h.sound.line h.free
  have hsettle := settle_of_some hb hdone
  rw [settle_of_free hfree] at hsettle
  have hstep : b.performSettled (.publish ticket event) =
      ((.done, (b.request ticket event).settle.2), (b.request ticket event).settle.1) := by
    simp only [performSettled, perform, hopen, hticket, not_false_eq_true, and_self, if_true]
  rw [hstep, hsettle]
  refine ⟨_, rfl, ⟨hb.drive, ?_, hfree⟩, ?_, ?_, fun x => ?_⟩
  · rw [capacity_drive hb, hrequest]
    exact h.unbounded
  · have := congrArg Bus.isOpen hbare
    exact this.trans (by rw [hrequest]; exact hopen)
  · have := congrArg Bus.nextId hbare
    exact this.trans (by rw [hrequest]; rfl)
  · rw [contents_drive_deliver hb hr hw, contents_request]
    rcases hx : b.contents x with _ | es
    · rfl
    · have hmem : x ∈ b.ids := by
        rw [← queue?_isSome]
        unfold contents at hx
        obtain ⟨q, hq, -⟩ := Option.bind_eq_some_iff.1 hx
        rw [hq]
        rfl
      simp [Reservation.targets, hmem]

/-- Any other operation leaves the bus calm, with no publish to move on. -/
theorem performSettled (h : b.Calm) {op : Op} (hop : ∀ ticket event, op ≠ .publish ticket event) :
    b.performSettled op = (((b.perform op).1, []), (b.perform op).2) ∧ (b.perform op).2.Calm := by
  have hfree : (b.perform op).2.gate = .free := by
    cases op with
    | publish ticket event => exact absurd rfl (hop ticket event)
    | poll ticket => simp [Bus.perform, h.free, Gate.holder?]
    | cancel ticket =>
      simp only [Bus.perform, h.cancel_eq]
      exact h.free
    | subscribe =>
      simp only [Bus.perform]
      split
      · rcases hs : b.subscribe? with _ | ⟨id, b'⟩
        · exact h.free
        · obtain ⟨-, rfl⟩ := subscribe?_eq hs
          exact h.free
      · exact h.free
    | unsubscribe id =>
      simp only [Bus.perform]
      split <;> exact h.free
    | recv id | tryRecv id =>
      simp only [Bus.perform]
      split
      · rw [take_eq]
        exact h.free
      · exact h.free
    | stats =>
      simp only [Bus.perform]
      split <;> exact h.free
    | close =>
      simp only [Bus.perform]
      split <;> exact h.free
  refine ⟨?_, h.sound.perform op, (capacity_perform h.sound op).trans h.unbounded, hfree⟩
  simp only [Bus.performSettled, settle_of_free hfree]

/-! ### What a subscription has after one operation -/

/-- A receive changes the queue and nothing else. -/
theorem view_take (b : Bus) (id s : Nat) : view s (b.take id).2.1 =
    { view s b with contents := (b.take id).2.1.contents s } := by
  have h := take_eq b id
  have hopen := congrArg Bus.isOpen h
  have hnext := congrArg Bus.nextId h
  unfold view
  rw [hopen, hnext]

/-- A receiver finds what its view says. -/
theorem take_view (h : b.Calm) (s : Nat) : (view s b).take =
    if b.isOpenAt s then some ((b.take s).1, view s (b.take s).2.1) else none := by
  rw [← isSome_contents]
  rcases hc : b.contents s with _ | _ | ⟨e, es⟩
  · simp [View.take, view, hc]
  · rw [take_of_nil hc, h.isGone_eq]
    rcases ho : b.isOpen <;> simp [View.take, view, hc, ho]
  · obtain ⟨he, hx⟩ := take_of_cons hc
    rw [view_take, he, hx, if_pos rfl]
    simp [View.take, view, hc]

/-- A receive through another subscription is not seen. -/
theorem view_take_of_ne {s id : Nat} (hne : id ≠ s) (hopen : b.isOpenAt id = true) :
    view s (b.take id).2.1 = view s b := by
  rw [← isSome_contents, Option.isSome_iff_exists] at hopen
  obtain ⟨_ | ⟨e, es⟩, hc⟩ := hopen
  · rw [take_of_nil hc]
  · have hx := (take_of_cons hc).2 s
    rw [if_neg hne.symm] at hx
    rw [view_take, hx]
    rfl

/-- **What does not concern a subscription is not seen through it.** -/
theorem view_of_not_concerns (h : b.Calm) {s : Nat} {op : Op} (hop : op.concerns s = false) :
    (b.performSettled op).2.Calm ∧ view s (b.performSettled op).2 = view s b := by
  have hpub : ∀ ticket event, op ≠ .publish ticket event := by
    rintro ticket event rfl
    simp [Op.concerns] at hop
  obtain ⟨hstep, hcalm⟩ := h.performSettled hpub
  rw [hstep]
  refine ⟨hcalm, ?_⟩
  cases op with
  | publish ticket event | subscribe | close => simp [Op.concerns] at hop
  | poll ticket => simp [perform, h.free, Gate.holder?]
  | cancel ticket => simp [perform, h.cancel_eq]
  | unsubscribe id =>
    have hne : s ≠ id := by
      rintro rfl
      simp [Op.concerns] at hop
    simp only [perform]
    split
    · simp only [view, contents_unsubscribe, if_neg hne]
      rfl
    · rfl
  | recv id | tryRecv id =>
    have hne : id ≠ s := by simpa [Op.concerns] using hop
    simp only [perform]
    split
    · exact view_take_of_ne hne ‹_›
    · rfl
  | stats =>
    simp only [perform]
    split <;> rfl

/-- **What concerns a subscription is answered from its view.** -/
theorem view_of_concerns (h : b.Calm) {s : Nat} {op : Op} (hop : op.concerns s = true) :
    (b.performSettled op).2.Calm ∧ ((b.performSettled op).1.1, view s (b.performSettled op).2) =
      (view s b).step s op := by
  by_cases hpub : ∃ ticket event, op = .publish ticket event
  · obtain ⟨ticket, event, rfl⟩ := hpub
    by_cases hopen : b.isOpen = true
    · obtain ⟨count, hreply, hcalm, ho, hn, hc⟩ := h.publish hopen ticket event
      refine ⟨hcalm, ?_⟩
      simp only [hreply, view, View.step, hopen, ho, hn, hc, if_true]
    · have hstep : b.performSettled (.publish ticket event) = ((.refused, []), b) := by
        simp [Bus.performSettled, perform, hopen, settle_of_free h.free]
      rw [hstep]
      exact ⟨h, by simp [View.step, view, hopen]⟩
  push Not at hpub
  obtain ⟨hstep, hcalm⟩ := h.performSettled hpub
  rw [hstep]
  refine ⟨hcalm, ?_⟩
  cases op with
  | publish ticket event => exact absurd rfl (hpub ticket event)
  | poll ticket | cancel ticket | stats => simp [Op.concerns] at hop
  | subscribe =>
    by_cases hopen : b.isOpen = true
    · obtain ⟨b', hsub⟩ : ∃ b', b.subscribe? = some (b.nextId, b') := by
        simp [subscribe?, h.unbounded]
      have hc := contents_subscribe h.sound hsub s
      obtain ⟨-, hb'⟩ := subscribe?_eq hsub
      have ho : b'.isOpen = true := by rw [hb', ← hopen]
      have hn : b'.nextId = b.nextId + 1 := by rw [hb']
      simp only [perform, hopen, hsub, view, View.step, hc, ho, hn, if_true]
    · simp [perform, hopen, view, View.step]
  | unsubscribe id =>
    obtain rfl : id = s := by simpa [Op.concerns] using hop
    simp only [perform, View.step]
    rw [← isSome_contents]
    change (_, _) = if (b.contents id).isSome = true then _ else _
    split
    · simp only [view, contents_unsubscribe, if_true]
      rfl
    · rfl
  | recv id | tryRecv id =>
    obtain rfl : id = s := by simpa [Op.concerns] using hop
    simp only [perform, View.step, h.take_view id]
    split <;> rfl
  | close =>
    by_cases hopen : b.isOpen = true
    · simp only [perform, hopen, View.step, view, contents_close, if_true]
      rfl
    · simp [perform, hopen, view, View.step]

end Calm

/-! ### Sessions -/

/-- **A session is seen through a subscription** as if it had an unbounded bus for itself: the
replies follow from its view and from the operations that concern it. -/
theorem Calm.repliesFor_eq {b : Bus} (h : b.Calm) (s : Nat) (ops : List Op) :
    repliesFor s b ops = (view s b).replies s (ops.filter (·.concerns s)) := by
  induction ops generalizing b with
  | nil => rfl
  | cons op ops ih =>
    have hcons : repliesFor s b (op :: ops) =
        (if op.concerns s then [(b.performSettled op).1.1] else []) ++
          repliesFor s (b.performSettled op).2 ops := by
      unfold repliesFor
      rw [runSettled_cons, List.zip_cons_cons, List.filter_cons]
      cases op.concerns s <;> rfl
    rw [hcons, List.filter_cons]
    by_cases hop : op.concerns s = true
    · obtain ⟨hcalm, hview⟩ := h.view_of_concerns hop
      rw [if_pos hop, if_pos hop, View.replies, ← hview, ih hcalm]
      rfl
    · obtain ⟨hcalm, hview⟩ := h.view_of_not_concerns (Bool.not_eq_true _ ▸ hop)
      rw [if_neg hop, if_neg hop, ih hcalm, hview]
      rfl

/-- An operation leaves an unbounded bus calm, and only `close` lets go of it. -/
theorem Calm.step {b : Bus} (h : b.Calm) {op : Op} (hop : op ≠ .close) :
    (b.performSettled op).2.Calm ∧ (b.performSettled op).2.isOpen = b.isOpen := by
  by_cases hc : op.concerns b.nextId = true
  · obtain ⟨hcalm, hview⟩ := h.view_of_concerns hc
    refine ⟨hcalm, ?_⟩
    have hopen : ((view b.nextId b).step b.nextId op).2.isOpen = b.isOpen := by
      cases op with
      | close => exact absurd rfl hop
      | publish ticket event | subscribe | unsubscribe id =>
        simp only [View.step]
        split <;> rfl
      | poll ticket | cancel ticket | stats => rfl
      | recv id | tryRecv id =>
        rcases hq : b.contents b.nextId with _ | _ | ⟨e, es⟩ <;>
          simp [View.step, View.take, view, hq]
    rw [← hopen, ← hview]
    rfl
  · obtain ⟨hcalm, hview⟩ := h.view_of_not_concerns (Bool.not_eq_true _ ▸ hc)
    exact ⟨hcalm, congrArg View.isOpen hview⟩

theorem Calm.runSettled {b : Bus} (h : b.Calm) {ops : List Op} (hops : Op.close ∉ ops) :
    (b.runSettled ops).2.Calm ∧ (b.runSettled ops).2.isOpen = b.isOpen := by
  induction ops generalizing b with
  | nil => exact ⟨h, rfl⟩
  | cons op ops ih =>
    rw [List.mem_cons, not_or] at hops
    obtain ⟨hcalm, hopen⟩ := h.step (Ne.symm hops.1)
    obtain ⟨hcalm', hopen'⟩ := ih hcalm hops.2
    exact ⟨hcalm', hopen'.trans hopen⟩

/-- A publish in a session on an open bus is completed in its own step. -/
theorem Calm.completed_at_once {b : Bus} (h : b.Calm) (hopen : b.isOpen = true)
    {earlier : List Op} (hclose : Op.close ∉ earlier) (ticket : Nat) (event : Event)
    (later : List Op) : ∃ count,
      (b.runSettled (earlier ++ .publish ticket event :: later)).1[earlier.length]? =
        some (.done, [(ticket, count)]) := by
  obtain ⟨hcalm, hopen'⟩ := h.runSettled hclose
  obtain ⟨count, hreply, -⟩ := hcalm.publish (hopen'.trans hopen) ticket event
  refine ⟨count, ?_⟩
  rw [runSettled_append, runSettled_cons,
    List.getElem?_append_right (length_runSettled b earlier).le, length_runSettled, Nat.sub_self,
    List.getElem?_cons_zero]
  exact congrArg some hreply

/-- **On an unbounded bus subscribers do not reach each other.** Two sessions are compared that
have the same publishes and subscribes, let go of the bus at the same point, and do the same with
the subscription `s`. What they do with other subscriptions can be anything.

* All operations that concern `s` are answered the same, its receives among them.
* In both sessions, every publish on a bus that has not been let go of is completed in the step in
  which it is called. -/
theorem replies_isolated (s : Nat) (ops ops' : List Op)
    (h : ops.filter (·.concerns s) = ops'.filter (·.concerns s)) :
    repliesFor s (.new none) ops = repliesFor s (.new none) ops' ∧
    ∀ session ∈ [ops, ops'], ∀ earlier ticket event later,
      session = earlier ++ .publish ticket event :: later → Op.close ∉ earlier →
      ∃ count, ((Bus.new none).runSettled session).1[earlier.length]? =
        some (.done, [(ticket, count)]) := by
  constructor
  · rw [Calm.new.repliesFor_eq, Calm.new.repliesFor_eq, h]
  · rintro session - earlier ticket event later rfl hclose
    exact Calm.new.completed_at_once rfl hclose ticket event later

/-- The second subscriber takes the first event and leaves, or does not look until the end. The
first subscriber finds the same. -/
theorem replies_isolated_of_leaving :
    let event := fun id : String => (⟨id, "a", "", "", default⟩ : Event)
    let ops : List Op := [.subscribe, .subscribe, .publish 0 (event "1"), .recv 1, .unsubscribe 1,
      .publish 1 (event "2"), .recv 0, .tryRecv 0, .tryRecv 0]
    let ops' : List Op := [.subscribe, .subscribe, .publish 0 (event "1"),
      .publish 1 (event "2"), .recv 0, .tryRecv 0, .tryRecv 0, .recv 1]
    ops.filter (·.concerns 0) = ops'.filter (·.concerns 0) ∧
      repliesFor 0 (.new none) ops = [.subscribed 0, .subscribed 1, .done, .done,
        .received (.event (event "1")), .tried (some (event "2")), .tried none] ∧
      repliesFor 0 (.new none) ops' = repliesFor 0 (.new none) ops := by
  intro event ops ops'
  have h : ops.filter (·.concerns 0) = ops'.filter (·.concerns 0) := by decide
  exact ⟨h, by decide, (replies_isolated 0 ops ops' h).1.symm⟩

end Bus
end StatusRelay
