/-
# What the metrics count

The metrics keep their own counts, under the names of providers and of consumers. They are a sum:
every occurrence adds to them what it amounts to, whatever they were before.

| view | of | adds |
| --- | --- | --- |
| `measuredOf` | a provider | fetches that came to an end, events new and known, published, faults |
| `handledBy` | a consumer | events handled well, and not |
| `busDeliveries` | | deliveries |
| `inFlight` | | fetches begun, less those that came to an end or were abandoned |

The first view has the form of the counts of a worker, so that the two can be compared. A worker
counts a cycle when its fetch begins, the metrics when the fetch has come to its end.
-/

import Mathlib.Algebra.BigOperators.Group.List.Basic
import Mathlib.Algebra.Group.Prod
import Mathlib.Algebra.GroupWithZero.Nat
import Mathlib.Algebra.Ring.Int.Defs
import StatusRelay.Metrics
import StatusRelay.Worker

namespace StatusRelay

/-! ### Counts of workers add up -/

namespace WorkerTally

attribute [ext] WorkerTally

instance : Zero WorkerTally := ⟨{}⟩

instance : Add WorkerTally := ⟨fun a b => {
  cycles := a.cycles + b.cycles
  fetched := a.fetched + b.fetched
  published := a.published + b.published
  duplicates := a.duplicates + b.duplicates
  faults := a.faults + b.faults }⟩

instance : AddCommMonoid WorkerTally where
  add_assoc a b c := by ext <;> exact Nat.add_assoc ..
  zero_add a := by ext <;> exact Nat.zero_add _
  add_zero a := rfl
  add_comm a b := by ext <;> exact Nat.add_comm ..
  nsmul := nsmulRec

section Fields

variable (a b : WorkerTally)

@[simp] theorem cycles_add : (a + b).cycles = a.cycles + b.cycles := rfl

@[simp] theorem fetched_add : (a + b).fetched = a.fetched + b.fetched := rfl

@[simp] theorem published_add : (a + b).published = a.published + b.published := rfl

@[simp] theorem duplicates_add : (a + b).duplicates = a.duplicates + b.duplicates := rfl

@[simp] theorem faults_add : (a + b).faults = a.faults + b.faults := rfl

end Fields

end WorkerTally

/-- Under which name something is counted. -/
inductive Label where
  | provider (name : String)
  | consumer (name : String)
  deriving DecidableEq

namespace Occurrence

/-- The name under which an occurrence is counted. -/
def label? : Occurrence → Option Label
  | fetchEnded name .. | filtered name .. | published name _ => some (.provider name)
  | handled name .. => some (.consumer name)
  | _ => none

/-- What an occurrence amounts to for a provider. -/
def measured : Occurrence → WorkerTally
  | fetchEnded _ _ outcome => { cycles := 1, faults := if outcome.isFault then 1 else 0 }
  | filtered _ fresh duplicates =>
    { fetched := fresh.length + duplicates, duplicates := duplicates }
  | published .. => { published := 1 }
  | _ => {}

/-- What an occurrence amounts to for a consumer: events handled well, and not. -/
def handledWell : Occurrence → Nat × Nat
  | handled _ _ outcome => if outcome.isSuccess then (1, 0) else (0, 1)
  | _ => 0

theorem measured_of_no_label {what : Occurrence} (h : what.label? = none) : what.measured = 0 := by
  cases what with
  | fetchEnded | filtered | published => simp [label?] at h
  | _ => rfl

theorem handledWell_of_no_label {what : Occurrence} (h : what.label? = none) :
    what.handledWell = 0 := by
  cases what with
  | handled => simp [label?] at h
  | _ => rfl

/-- How many deliveries an occurrence tells of. -/
def deliveries : Occurrence → Nat
  | delivered _ count => count
  | _ => 0

end Occurrence

/-! ### Series -/

namespace Series

variable {α : Type}

theorem get_cons (label other : String) (a initial : α) (rest : Series α) :
    get ((label, a) :: rest) other initial =
      if label = other then a else get rest other initial := by
  unfold get
  rw [List.lookup_cons]
  by_cases h : label = other
  · simp [h]
  · have hne : (other == label) = false := by simpa using Ne.symm h
    simp [h, hne]

/-- **Only the value of the label changes.** -/
theorem get_update (s : Series α) (label other : String) (initial : α) (f : α → α) :
    (s.update label initial f).get other initial =
      if label = other then f (s.get other initial) else s.get other initial := by
  induction s with
  | nil => exact get_cons label other (f initial) initial []
  | cons p rest ih =>
    obtain ⟨l, a⟩ := p
    unfold update
    split
    · rename_i hl
      subst hl
      rw [get_cons, get_cons]
      split <;> rfl
    · rename_i hl
      rw [get_cons, get_cons, ih]
      by_cases hother : l = other
      · have hne : label ≠ other := fun h => hl (hother.trans h.symm)
        simp [hother, hne]
      · simp [hother]

end Series

namespace Metrics

/-- The total of a label. -/
def total (s : Series Counter) (label : String) : Nat := (s.get label {}).total

theorem total_bump (s : Series Counter) (label other : String) (amount : Nat) :
    total (bump s label amount) other = total s other + if label = other then amount else 0 := by
  unfold bump
  split
  · rename_i h
    simp [h]
  · unfold total
    rw [Series.get_update]
    split <;> rfl

/-! ### Views -/

/-- **What the metrics tell of a provider,** in the form of the counts of a worker. -/
def measuredOf (m : Metrics) (provider : String) : WorkerTally where
  cycles := (m.fetchDuration.get provider .empty).count
  fetched := total m.eventsNew provider + total m.eventsDuplicate provider
  published := total m.eventsPublished provider
  duplicates := total m.eventsDuplicate provider
  faults := total m.fetchFaults provider

/-- **What the metrics tell of a consumer:** events handled well, and not. -/
def handledBy (m : Metrics) (consumer : String) : Nat × Nat :=
  (total m.consumerProcessed consumer, total m.consumerFailures consumer)

variable {m : Metrics}

theorem active_observe (m : Metrics) (what : Occurrence) : (m.observe what).active = m.active := by
  cases what with
  | handled name event outcome =>
    simp only [observe, recordHandled]
    split
    · split <;> rfl
    · rfl
  | fetchEnded name elapsed outcome =>
    simp only [observe, recordFetch, fetchEnded]
    split <;> split <;> rfl
  | asked | taken _ | ended => rfl
  | _ =>
    simp only [observe, fetchStarted, fetchEnded, recordFiltered, recordDeliveries, recordPublished]
    split <;> rfl

/-- **An occurrence adds what it amounts to,** under its own label only. -/
theorem measuredOf_observe (hm : m.active = true) (what : Occurrence) (name : String) :
    (m.observe what).measuredOf name = m.measuredOf name +
      if what.label? = some (.provider name) then what.measured else 0 := by
  cases what with
  | fetchEnded provider elapsed outcome =>
    by_cases h : provider = name <;> ext <;>
      simp [observe, fetchEnded, recordFetch, hm, measuredOf, Series.get_update, total_bump,
        Histogram.observe, Occurrence.label?, Occurrence.measured, h]
  | filtered provider fresh duplicates =>
    by_cases h : provider = name <;> ext <;>
      simp [observe, recordFiltered, hm, measuredOf, total_bump, Occurrence.label?,
        Occurrence.measured, h, Nat.add_add_add_comm]
  | published provider event =>
    by_cases h : provider = name <;> ext <;>
      simp [observe, recordPublished, hm, measuredOf, total_bump, Occurrence.label?,
        Occurrence.measured, h]
  | handled consumer event outcome =>
    by_cases h : outcome.isSuccess = true <;>
      simp [observe, recordHandled, hm, h, measuredOf, Occurrence.label?]
  | delivered event count =>
    by_cases h : count = 0 <;>
      simp [observe, recordDeliveries, hm, h, measuredOf, Occurrence.label?]
  | _ => simp [observe, fetchStarted, fetchEnded, hm, measuredOf, Occurrence.label?]

theorem handledBy_observe (hm : m.active = true) (what : Occurrence) (name : String) :
    (m.observe what).handledBy name = m.handledBy name +
      if what.label? = some (.consumer name) then what.handledWell else 0 := by
  cases what with
  | handled consumer event outcome =>
    by_cases h : consumer = name <;> by_cases hok : outcome.isSuccess = true <;>
      simp [observe, recordHandled, hm, h, hok, handledBy, total_bump, Occurrence.label?,
        Occurrence.handledWell]
  | delivered event count =>
    by_cases h : count = 0 <;>
      simp [observe, recordDeliveries, hm, h, handledBy, Occurrence.label?]
  | _ =>
    simp [observe, fetchStarted, fetchEnded, recordFetch, recordFiltered, recordPublished, hm,
      handledBy, Occurrence.label?]

theorem deliveries_observe (hm : m.active = true) (what : Occurrence) :
    (m.observe what).busDeliveries.total = m.busDeliveries.total + what.deliveries := by
  cases what with
  | delivered event count =>
    by_cases h : count = 0 <;>
      simp [observe, recordDeliveries, hm, h, Counter.add, Occurrence.deliveries]
  | handled consumer event outcome =>
    by_cases h : outcome.isSuccess = true <;>
      simp [observe, recordHandled, hm, h, Occurrence.deliveries]
  | _ =>
    simp [observe, fetchStarted, fetchEnded, recordFetch, recordFiltered, recordPublished, hm,
      Occurrence.deliveries]

theorem inFlight_observe (hm : m.active = true) (what : Occurrence) :
    (m.observe what).inFlight = m.inFlight + what.inFlightChange := by
  cases what with
  | delivered event count =>
    by_cases h : count = 0 <;>
      simp [observe, recordDeliveries, hm, h, Occurrence.inFlightChange]
  | handled consumer event outcome =>
    by_cases h : outcome.isSuccess = true <;>
      simp [observe, recordHandled, hm, h, Occurrence.inFlightChange]
  | _ =>
    simp [observe, fetchStarted, fetchEnded, recordFetch, recordFiltered, recordPublished, hm,
      Occurrence.inFlightChange, Int.sub_eq_add_neg]

/-! ### All that has happened -/

theorem active_observeAll (hm : m.active = true) (log : List Occurrence.Entry) :
    (m.observeAll log).active = true := by
  induction log with
  | nil => exact hm
  | cons e log ih => exact (active_observe _ e.what).trans ih

/-- **A view to which every occurrence adds** has grown by the sum of what they add. -/
theorem view_observeAll {M : Type} [AddCommMonoid M] (view : Metrics → M) {amount : Occurrence → M}
    (hview : ∀ (m : Metrics) what, m.active = true → view (m.observe what) = view m + amount what)
    (hm : m.active = true) (log : List Occurrence.Entry) :
    view (m.observeAll log) = view m + (log.map fun e => amount e.what).sum := by
  induction log with
  | nil => exact (add_zero _).symm
  | cons e log ih =>
    change view ((m.observeAll log).observe e.what) = _
    rw [hview _ _ (active_observeAll hm log), ih, List.map_cons, List.sum_cons, add_assoc,
      add_comm (amount e.what)]

section Views

variable (hm : m.active = true) (log : List Occurrence.Entry) (name : String)

include hm

theorem measuredOf_observeAll : (m.observeAll log).measuredOf name = m.measuredOf name +
    (log.map fun e => if e.what.label? = some (.provider name) then e.what.measured else 0).sum :=
  view_observeAll (·.measuredOf name) (fun _ what hm => measuredOf_observe hm what name) hm log

theorem handledBy_observeAll : (m.observeAll log).handledBy name = m.handledBy name +
    (log.map fun e =>
      if e.what.label? = some (.consumer name) then e.what.handledWell else 0).sum :=
  view_observeAll (·.handledBy name) (fun _ what hm => handledBy_observe hm what name) hm log

theorem deliveries_observeAll : (m.observeAll log).busDeliveries.total =
    m.busDeliveries.total + (log.map fun e => e.what.deliveries).sum :=
  view_observeAll (·.busDeliveries.total) (fun _ what hm => deliveries_observe hm what) hm log

theorem inFlight_observeAll : (m.observeAll log).inFlight =
    m.inFlight + (log.map fun e => e.what.inFlightChange).sum :=
  view_observeAll (·.inFlight) (fun _ what hm => inFlight_observe hm what) hm log

end Views

end Metrics
end StatusRelay
