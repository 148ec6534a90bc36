/-
# What a consumer does with its queue

A consumer takes the events out of its queue one after another, and its sink deals with each before
the next is taken. `Progress` says how far it has come: which events its sink is done with, and with
which it deals now. Its counts, and what has happened to it, are then known.

| the consumer | the queue |
| --- | --- |
| waits | empty, and more may come, unless the consumer is going to be polled |
| deals with an event | holds the events behind it |
| was stopped | lost, with what was in it |
| ended by itself | empty, and nothing more will come |

A poll of the consumer moves it on, `Serving.poll_go`, or ends it, `Serving.poll_stop`.
-/

import StatusRelay.Proofs.World.Cycles
import StatusRelay.Proofs.World.Feeding
import StatusRelay.Proofs.World.Labels
import StatusRelay.Proofs.World.Neighbours

namespace StatusRelay

namespace Sink

/-- What becomes of events, from the first one that the sink is given on. -/
def outcomes (s : Sink) (done : List Event) : List HandlingOutcome :=
  done.mapIdx fun n e => (s.handle n e).outcome

/-- What happens to a consumer on the way: each event is taken, and dealt with before the next. -/
def course (s : Sink) (done : List Event) : List Occurrence :=
  (done.mapIdx fun n e => [.taken e, .handled s.name e (s.handle n e).outcome]).flatten

/-- The counts of a consumer whose sink is done with some events, and deals with another one if it
is given. -/
def tallyOf (s : Sink) (done : List Event) (current : Option Event) : ConsumerTally where
  received := done.length + current.toList.length
  processed := (s.outcomes done).countP (·.isSuccess)
  failures := (s.outcomes done).countP (!·.isSuccess)

/-- The stage of a consumer whose sink is done with some events, and deals with another one if it is
given. -/
def IsStage (s : Sink) (done : List Event) : Option Event → ConsumerStage → Prop
  | none, stage => stage = .receiving
  | some e, stage => ∃ due, stage = .handling e due (s.handle done.length e).outcome

variable (s : Sink) (done : List Event) (e : Event)

theorem outcomes_concat :
    s.outcomes (done ++ [e]) = s.outcomes done ++ [(s.handle done.length e).outcome] := by
  simp [outcomes, List.mapIdx_append]

theorem course_concat : s.course (done ++ [e]) =
    s.course done ++ [.taken e, .handled s.name e (s.handle done.length e).outcome] := by
  simp [course, List.mapIdx_append]

theorem received_course : (s.course done).flatMap Occurrence.received = done := by
  induction done using List.reverseRecOn with
  | nil => rfl
  | append_singleton done e ih =>
    rw [course_concat, List.flatMap_append, ih]
    rfl

theorem received_told (current : Option Event) :
    (s.course done ++ current.toList.map Occurrence.taken).flatMap Occurrence.received =
      done ++ current.toList := by
  rw [List.flatMap_append, received_course]
  cases current <;> rfl

end Sink

namespace World

/-- What has happened to a task, the earliest first. -/
def story (i : Nat) (w : World) : List Occurrence := (ofTask i w.log).reverse.map (·.what)

theorem story_note (w : World) (i : Nat) (what : Occurrence) :
    (w.note i what).story i = w.story i ++ [what] := by
  unfold story
  rw [ofTask_note, List.reverse_cons, List.map_append]
  rfl

/-- What is not told of a task does not happen to it. -/
theorem story_congr {w w' : World} (i : Nat) (h : w'.log = w.log) : w'.story i = w.story i := by
  unfold story
  rw [h]

end World

/-- **How far a consumer has come:** its sink is done with some events and may deal with another. -/
structure Progress (s : Sink) (queue : Nat) (done : List Event) (current : Option Event)
    (told : List Occurrence) (c : Consumer) : Prop where
  sink : c.sink = s
  queue : c.queue = queue
  tally : c.tally = s.tallyOf done current
  told : told = s.course done ++ current.toList.map .taken

namespace Progress

variable {sink : Sink} {queue : Nat} {done : List Event} {current : Option Event} {e : Event}
  {told : List Occurrence} {c : Consumer}

theorem stage (h : Progress sink queue done current told c) (stage : ConsumerStage) :
    Progress sink queue done current told { c with stage := stage } :=
  ⟨h.sink, h.queue, h.tally, h.told⟩

theorem taken (h : Progress sink queue done none told c) (e : Event) :
    Progress sink queue done (some e) (told ++ [.taken e])
      { c with tally.received := c.tally.received + 1 } := by
  refine ⟨h.sink, h.queue, ?_, ?_⟩
  · simp only [h.tally, Sink.tallyOf, Option.toList, List.length_nil, List.length_singleton,
      Nat.add_zero]
  · rw [h.told]
    simp

/-- The sink is done with an event, in the way that it deals with this one. -/
theorem finishHandling {w : World} {i : Nat}
    (h : Progress sink queue done (some e) (w.story i) c) {outcome : HandlingOutcome}
    (ho : outcome = (sink.handle done.length e).outcome) :
    Progress sink queue (done ++ [e]) none ((w.finishHandling i c e outcome).1.story i)
      (w.finishHandling i c e outcome).2 := by
  subst ho
  refine ⟨h.sink, h.queue, ?_, ?_⟩
  · simp only [World.finishHandling, Sink.tallyOf, Sink.outcomes_concat, List.countP_append,
      List.countP_singleton, h.tally]
    split <;> simp_all
  · refine (World.story_note w i _).trans ?_
    rw [h.told, h.sink, Sink.course_concat]
    simp

end Progress

namespace World

variable {w w' : World} {i queue : Nat} {sink : Sink}

/-- **A consumer that is not over:** what it has received, and what is in its queue, are the events
that were placed there. -/
structure Serving (i : Nat) (s : Sink) (queue : Nat) (placed : List Event) (w : World)
    (c : Consumer) (done : List Event) (current : Option Event) : Prop where
  task : w.tasks[i]? = some (.consumer c)
  progress : Progress s queue done current (w.story i) c
  stage : s.IsStage done current c.stage
  queued : ∃ items, w.bus.contents queue = some items ∧ done ++ current.toList ++ items = placed

/-- **A consumer that has come to its end.** -/
structure Ended (i : Nat) (s : Sink) (w : World) (c : Consumer) (done : List Event)
    (current : Option Event) : Prop where
  task : w.tasks[i]? = some (.consumer c)
  sink : c.sink = s
  stage : c.stage = .ended
  tally : c.tally = s.tallyOf done current
  told : w.story i = s.course done ++ current.toList.map .taken ++ [.ended]

/-- A consumer ends. -/
theorem ended_endConsumer {c : Consumer} {done : List Event} {current : Option Event}
    (hi : i < w.tasks.length) (h : Progress sink queue done current (w.story i) c) :
    Ended i sink (w.endConsumer i c .ended) { c with stage := .ended } done current ∧
      (w.endConsumer i c .ended).bus.contents queue = none := by
  obtain ⟨more, heq⟩ := endConsumer_eq w i c .ended
  rw [heq]
  refine ⟨⟨List.getElem?_set_self hi, h.sink, rfl, h.tally, ?_⟩, ?_⟩
  · rw [← h.told]
    exact story_note w i .ended
  · rw [← h.queue]
    exact (Bus.contents_unsubscribe w.bus c.queue c.queue).trans (if_pos rfl)

/-! ### A poll -/

/-- Where a consumer stands once it has been polled, and has not come to its end: it waits for an
event that is not there yet, or its timer is set. -/
def Waits (i queue : Nat) (w : World) (c : Consumer) (current : Option Event) : Prop :=
  (current = none → w.bus.contents queue = some [] ∧ w.bus.isGone = false) ∧
    ∀ e due outcome, c.stage = .handling e due outcome → (due, i) ∈ w.timers

/-- **What a poll of a consumer comes to,** if no stop is signalled: the consumer waits again, with
some events taken off its queue, or it has handled all events and ends, since the bus has gone. -/
inductive Turns (i : Nat) (s : Sink) (queue : Nat) (placed : List Event) (w w' : World) : Prop
  | waits (c : Consumer) (done : List Event) (current : Option Event) (n : Nat)
    (serving : Serving i s queue placed w' c done current) (waits : Waits i queue w' c current)
    (queued : w'.bus.contents queue = (w.bus.contents queue).map (List.drop n))
  | ends (c : Consumer) (ended : Ended i s w' c placed none) (gone : w.bus.isGone = true)
    (left : w'.bus.contents queue = none)

section Receiving

variable {c : Consumer} {done items : List Event} {e : Event}

/-- A moment that is yet to come is waited for. -/
theorem setTimer_put (w : World) (i : Nat) (t : Task) {delay : Nat} (h : delay ≠ 0) :
    (w.put i t).setTimer i (w.now + delay) =
      { w.put i t with timers := w.timers ++ [(w.now + delay, i)] } :=
  if_neg (Nat.not_le_of_gt (Nat.lt_add_of_pos_right (Nat.pos_of_ne_zero h)))

/-- A consumer whose queue is empty ends if the bus has gone. -/
theorem receive_closed (hq : w.bus.contents c.queue = some []) (hgone : w.bus.isGone = true)
    (most : Nat) : w.receive i c (most + 1) = w.endConsumer i c .ended := by
  simp only [receive, Bus.take_of_nil hq, hgone, if_true]

theorem receive_nil (hp : Progress sink queue done none (w.story i) c)
    (hs : c.stage = .receiving) (hi : i < w.tasks.length) (hq : w.bus.contents queue = some [])
    (most : Nat) : Turns i sink queue done w (w.receive i c (most + 1)) := by
  have hq' : w.bus.contents c.queue = some [] := hp.queue.symm ▸ hq
  rcases hgone : w.bus.isGone with _ | _
  · have hw : w.receive i c (most + 1) = w.put i (.consumer c) := by
      simp only [receive, Bus.take_of_nil hq', hgone, Bool.false_eq_true, if_false]
    rw [hw]
    refine .waits c done none 0 ⟨List.getElem?_set_self hi, hp, hs, [], hq, by simp⟩
      ⟨fun _ => ⟨hq, hgone⟩, fun e due outcome h => by simp [hs] at h⟩ ?_
    rw [hq]
    exact hq
  · obtain ⟨hended, hleft⟩ := ended_endConsumer hi hp
    rw [receive_closed hq' hgone most]
    exact .ends _ hended hgone hleft

/-- A consumer takes an event, with which its sink then deals. -/
theorem receive_cons (hp : Progress sink queue done none (w.story i) c)
    (hq : w.bus.contents queue = some (e :: items)) (most : Nat) :
    ∃ v : World, v.tasks = w.tasks ∧ v.bus.isGone = w.bus.isGone ∧ v.signal = w.signal ∧
      v.bus.contents queue = some items ∧ v.story i = w.story i ++ [.taken e] ∧
      w.receive i c (most + 1) =
        let handling := c.sink.handle c.tally.received e
        let c := { c with tally.received := c.tally.received + 1 }
        if handling.delay = 0 then
          if handling.outcome = .deadly then
            (v.finishHandling i c e handling.outcome).1.endConsumer i
              (v.finishHandling i c e handling.outcome).2 .died
          else (v.finishHandling i c e handling.outcome).1.receive i
            (v.finishHandling i c e handling.outcome).2 most
        else
          (v.put i (.consumer { c with
            stage := .handling e (v.now + handling.delay) handling.outcome })).setTimer i
              (v.now + handling.delay) := by
  obtain ⟨htake, hafter⟩ := Bus.take_of_cons hq
  have hrest := Bus.take_eq w.bus queue
  rw [← hp.queue] at htake hafter hrest
  rcases hb : w.bus.take c.queue with ⟨found, bus, parties⟩
  rw [hb] at htake hafter hrest
  obtain ⟨more, hbus⟩ := withBus_eq w bus parties
  refine ⟨(w.withBus bus parties).note i (.taken e), by rw [hbus]; rfl, ?_, by rw [hbus]; rfl, ?_,
    ?_, ?_⟩
  · rw [hbus]
    replace hrest : bus = { w.bus with queues := bus.queues } := hrest
    change bus.isGone = _
    rw [hrest]
    rfl
  · rw [hbus]
    exact (hafter queue).trans (if_pos hp.queue.symm)
  · rw [story_note, story_congr (w := w) i (by rw [hbus])]
  · obtain rfl := htake
    simp only [receive, hb]

/-- Nothing gets lost when a poll begins with events that are taken. -/
theorem Turns.of_drop {placed : List Event} {v : World} {m : Nat}
    (h : Turns i sink queue placed v w')
    (hv : v.bus.contents queue = (w.bus.contents queue).map (List.drop m))
    (hgone : v.bus.isGone = w.bus.isGone) : Turns i sink queue placed w w' := by
  cases h with
  | waits c done current n serving waits queued =>
    refine .waits c done current (m + n) serving waits ?_
    rw [queued, hv, Option.map_map]
    exact congrArg (Option.map · _) (funext fun es => List.drop_drop)
  | ends c ended gone left => exact .ends c ended (hgone ▸ gone) left

/-- Nor when it begins with something that the bus has nothing to do with. -/
theorem Turns.of_bus {placed : List Event} {v : World} (h : Turns i sink queue placed v w')
    (hbus : v.bus = w.bus) : Turns i sink queue placed w w' :=
  h.of_drop (m := 0) (by rw [hbus]; cases w.bus.contents queue <;> rfl) (by rw [hbus])

/-- **A consumer that waits for events** takes all that are there, up to one that its sink needs
time for. If it finds none it waits for more, or ends if the bus has gone. -/
theorem receive_turns (hdrop : ∀ n e, (sink.handle n e).outcome ≠ .deadly)
    (hp : Progress sink queue done none (w.story i) c) (hs : c.stage = .receiving)
    (hi : i < w.tasks.length) (hq : w.bus.contents queue = some items) {most : Nat}
    (hmost : items.length < most) :
    Turns i sink queue (done ++ items) w (w.receive i c most) := by
  -- By induction on what is in the queue, of which `most` is one more at least: the loop never
  -- comes to its bound.
  induction items generalizing w c done most with
  | nil =>
    obtain ⟨most, rfl⟩ := Nat.exists_eq_succ_of_ne_zero (Nat.ne_of_gt hmost)
    rw [List.append_nil]
    exact receive_nil hp hs hi hq most
  | cons e items ih =>
    obtain ⟨most, rfl⟩ := Nat.exists_eq_succ_of_ne_zero (Nat.ne_of_gt (Nat.zero_lt_of_lt hmost))
    obtain ⟨v, htasks, hgone, -, hv, hstory, hw⟩ := receive_cons hp hq most
    have hhandle : c.sink.handle c.tally.received e = sink.handle done.length e := by
      rw [hp.sink, hp.tally]
      rfl
    have htaken := hp.taken e
    rw [← hstory] at htaken
    rw [← htasks] at hi
    rw [hw]
    simp only
    rw [hhandle]
    refine Turns.of_drop (m := 1) ?_ (by rw [hv, hq]; rfl) hgone
    split
    · rw [if_neg (hdrop _ _), List.append_cons]
      exact (ih (htaken.finishHandling (w := v) rfl) rfl hi hv
        (Nat.lt_of_succ_lt_succ hmost)).of_bus rfl
    · rename_i hdelay
      rw [setTimer_put v i _ hdelay]
      refine .waits _ done (some e) 0 ⟨List.getElem?_set_self hi, htaken.stage _, ⟨_, rfl⟩, items,
        hv, by simp⟩ ⟨by simp, fun e' due outcome hstage => ?_⟩ (by rw [hv]; exact hv)
      obtain ⟨-, rfl, -⟩ := ConsumerStage.handling.inj hstage
      exact List.mem_append_right _ (List.mem_singleton.2 rfl)

end Receiving

section Polling

variable {c : Consumer} {placed done : List Event} {current : Option Event}

theorem backlog_eq {items : List Event} (hq : w.bus.contents queue = some items) :
    w.backlog queue = items.length := by
  rw [← Bus.itemsAt_of_contents hq]
  unfold backlog Bus.itemsAt
  rcases w.bus.queue? queue with _ | q <;> rfl

namespace Serving

theorem isOver (h : Serving i sink queue placed w c done current) : c.stage.isOver = false := by
  have hstage := h.stage
  cases current with
  | none =>
    rw [show c.stage = _ from hstage]
    rfl
  | some e =>
    obtain ⟨due, hdue⟩ := hstage
    rw [hdue]
    rfl

theorem poll_eq (h : Serving i sink queue placed w c done current) :
    w.poll i = w.pollConsumer i c := by
  simp [World.poll, h.task, Task.isOver, h.isOver]

/-- A stop ends the consumer, whatever it is at. -/
theorem poll_stop (h : Serving i sink queue placed w c done current)
    (hstop : w.signal.isStop = true) :
    Ended i sink (w.poll i) { c with stage := .ended } done current ∧
      (w.poll i).bus.contents queue = none := by
  rw [h.poll_eq, pollConsumer, if_pos hstop]
  exact ended_endConsumer (List.getElem?_eq_some_iff.1 h.task).1 h.progress

/-- **A poll of a consumer** that was not told to stop comes to something, unless its sink needs
more time. -/
theorem poll_go (h : Serving i sink queue placed w c done current)
    (hdrop : ∀ n e, (sink.handle n e).outcome ≠ .deadly) (hgo : w.signal.isStop = false) :
    (∃ e due outcome, c.stage = .handling e due outcome ∧ w.now < due ∧ w.poll i = w) ∨
      Turns i sink queue placed w (w.poll i) := by
  have hi := (List.getElem?_eq_some_iff.1 h.task).1
  obtain ⟨items, hq, rfl⟩ := h.queued
  have hmost : items.length < w.backlog c.queue + 1 := by
    rw [h.progress.queue, backlog_eq hq]
    exact Nat.lt_succ_self _
  have hstage := h.stage
  rw [h.poll_eq]
  unfold pollConsumer
  rw [hgo]
  cases current with
  | none =>
    simp only [show c.stage = _ from hstage, Bool.false_eq_true, if_false]
    rw [Option.toList, List.append_nil]
    exact Or.inr (receive_turns hdrop h.progress hstage hi hq hmost)
  | some e =>
    obtain ⟨due, hdue⟩ := hstage
    simp only [hdue, Bool.false_eq_true, if_false, if_neg (hdrop done.length e)]
    split
    · exact Or.inr ((receive_turns hdrop (h.progress.finishHandling (w := w) rfl) rfl hi hq
        hmost).of_bus rfl)
    · rename_i hlate
      exact Or.inl ⟨e, due, _, rfl, Nat.lt_of_not_le hlate, rfl⟩

/-- **The end of the bus ends a consumer** that is done with all events. -/
theorem poll_closed (h : Serving i sink queue placed w c done none)
    (hq : w.bus.contents queue = some []) (hgone : w.bus.isGone = true) :
    w.poll i = w.endConsumer i c .ended := by
  rw [h.poll_eq]
  unfold pollConsumer
  rcases w.signal.isStop with _ | _
  · simp only [show c.stage = _ from h.stage, Bool.false_eq_true, if_false]
    exact receive_closed (h.progress.queue.symm ▸ hq) hgone _
  · rfl

end Serving

end Polling

end World

end StatusRelay
