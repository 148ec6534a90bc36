/-
# The gauge and the counters, whenever the metrics are set up

The metrics can be set up at any time, and the rest of the program calls them before and after.
A fetch that begins has a guard, which remembers whether the gauge was raised for it; when the guard
is given up the gauge is lowered if it was. A guard that was made before the setup may well be given
up after it.

| call | effect before the setup | effect after it |
| --- | --- | --- |
| `setUp` | the metrics are set up, unless a name is taken | none |
| `fetchStarted` | a guard is made | so is one that counts, and the gauge is raised |
| `fetchEnded k` | the guard is given up | and the gauge lowered if the guard counts |
| `record r` | none | the amounts of `r` are added to the counters |

What the gauge and the counters show is told by the calls alone (`gauge_balanced`). The counters are
kept in binary floating point, so they are exact up to `2 ^ 53`, and rounded above
(`counter_rounded`).

The calls of a program are given with the latest first.
-/

import StatusRelay.Proofs.Binary64
import StatusRelay.Proofs.Metrics

namespace StatusRelay

namespace Counter

/-- Adds an amount, unless there is nothing to add. -/
def plus (c : Counter) (amount : Nat) : Counter := if amount = 0 then c else c.add amount

theorem total_plus (c : Counter) (amount : Nat) : (c.plus amount).total = c.total + amount := by
  unfold plus
  split
  · rename_i h
    rw [h, Nat.add_zero]
  · rfl

/-- A counter after some amounts have been added, the last of them given first. -/
def sum (amounts : List Nat) : Counter := amounts.foldr (fun n c => c.plus n) {}

theorem total_sum (amounts : List Nat) : (sum amounts).total = amounts.sum := by
  induction amounts with
  | nil => rfl
  | cons n amounts ih =>
    rw [List.sum_cons, Nat.add_comm, ← ih]
    exact total_plus _ n

/-- **What a counter shows is not rounded** up to `2 ^ 53`. -/
theorem shown_sum {amounts : List Nat} (h : amounts.sum ≤ 2 ^ 53) :
    (sum amounts).shown = .ofNat amounts.sum := by
  induction amounts with
  | nil => rfl
  | cons n amounts ih =>
    rw [List.sum_cons] at h ⊢
    have hold := ih (by omega)
    show ((sum amounts).plus n).shown = _
    unfold plus
    split
    · rename_i hn
      rw [hold, hn, Nat.zero_add]
    · show (sum amounts).shown + .ofNat n = _
      rw [hold, Binary64.ofNat_add (by omega), Nat.add_comm]

end Counter

namespace Metrics

/-! ### Calls -/

/-- Something to record. -/
inductive Record where
  | fetch (provider : String) (ms : Nat) (faulted : Bool)
  | filtered (provider : String) (fresh duplicates : Nat)
  | published (provider : String)
  | deliveries (count : Nat)
  | handled (consumer : String) (success : Bool)
  deriving DecidableEq

/-- Records something. -/
def record (m : Metrics) : Record → Metrics
  | .fetch provider ms faulted => m.recordFetch provider ms faulted
  | .filtered provider fresh duplicates => m.recordFiltered provider fresh duplicates
  | .published provider => m.recordPublished provider
  | .deliveries count => m.recordDeliveries count
  | .handled consumer success => m.recordHandled consumer success

/-- A call of the metrics. -/
inductive Call where
  | setUp
  /-- A fetch begins. Its guard has the next number. -/
  | fetchStarted
  /-- A guard is given up. -/
  | fetchEnded (guard : Nat)
  | record (r : Record)
  deriving DecidableEq

/-- The metrics, and for each guard that was made whether it counts, unless it was given up. -/
structure Usage where
  metrics : Metrics
  guards : List (Option Bool)

namespace Usage

/-- Nothing has been called yet, and some names are taken. -/
def start (foreign : List String) : Usage := ⟨{ foreign := foreign }, []⟩

/-- Makes a call. A guard that there is not, or no longer, cannot be given up. -/
def perform (u : Usage) : Call → Usage
  | .setUp => ⟨u.metrics.setUp.2, u.guards⟩
  | .fetchStarted => ⟨u.metrics.fetchStarted.2, u.guards ++ [some u.metrics.fetchStarted.1]⟩
  | .fetchEnded k =>
    match u.guards[k]? with
    | some (some counted) => ⟨u.metrics.fetchEnded counted, u.guards.set k none⟩
    | _ => u
  | .record r => ⟨u.metrics.record r, u.guards⟩

/-- What calls lead to. -/
def after (foreign : List String) (past : List Call) : Usage :=
  past.foldr (fun c u => u.perform c) (start foreign)

end Usage

/-! ### What the calls tell -/

/-- Whether no family's name is taken. -/
def isFree (foreign : List String) : Bool := Family.all.all fun f => !foreign.contains f.name

section Past

variable (foreign : List String)

/-- Whether the metrics have been set up. -/
def isSetUp (past : List Call) : Bool := past.contains .setUp && isFree foreign

/-- For each guard that was made, whether the metrics had been set up then. -/
def made : List Call → List Bool
  | [] => []
  | .fetchStarted :: past => made past ++ [isSetUp foreign past]
  | _ :: past => made past

/-- Whether a guard was given up, after it had been made. -/
def givenUp (k : Nat) : List Call → Bool
  | [] => false
  | c :: past => givenUp k past || (c == .fetchEnded k && decide (k < (made foreign past).length))

/-- **The guards that are alive** and were made once the metrics had been set up. -/
def alive (past : List Call) : List Nat :=
  (List.range (made foreign past).length).filter fun k =>
    (made foreign past)[k]? == some true && !givenUp foreign k past

end Past

/-- A counter: a family, and a label if it has one. -/
inductive Meter where
  | faults (provider : String)
  | fresh (provider : String)
  | duplicates (provider : String)
  | published (provider : String)
  | deliveries
  | processed (consumer : String)
  | failures (consumer : String)
  deriving DecidableEq

/-- What a counter shows. -/
def counter (m : Metrics) : Meter → Counter
  | .faults provider => m.fetchFaults.get provider {}
  | .fresh provider => m.eventsNew.get provider {}
  | .duplicates provider => m.eventsDuplicate.get provider {}
  | .published provider => m.eventsPublished.get provider {}
  | .deliveries => m.busDeliveries
  | .processed consumer => m.consumerProcessed.get consumer {}
  | .failures consumer => m.consumerFailures.get consumer {}

/-- What is to be added to a counter when something is recorded. -/
def Record.amount : Record → Meter → Nat
  | .fetch p _ faulted, .faults q => if p = q ∧ faulted then 1 else 0
  | .filtered p fresh _, .fresh q => if p = q then fresh else 0
  | .filtered p _ duplicates, .duplicates q => if p = q then duplicates else 0
  | .published p, .published q => if p = q then 1 else 0
  | .deliveries count, .deliveries => count
  | .handled c success, .processed d => if c = d ∧ success then 1 else 0
  | .handled c success, .failures d => if c = d ∧ !success then 1 else 0
  | _, _ => 0

/-- **The amounts recorded for a counter** since the metrics were set up, the latest first. -/
def recorded (foreign : List String) (meter : Meter) : List Call → List Nat
  | [] => []
  | .record r :: past =>
    if isSetUp foreign past then r.amount meter :: recorded foreign meter past
    else recorded foreign meter past
  | _ :: past => recorded foreign meter past


/-! ### The setup -/

theorem isFree_iff {foreign : List String} :
    isFree foreign = true ↔ ∀ f : Family, f.name ∉ foreign := by
  have hall : ∀ f : Family, f ∈ Family.all := fun f => by cases f <;> decide
  unfold isFree
  simp [hall]

/-- Registering families changes nothing else. -/
theorem register_eq (m : Metrics) (fs : List Family) : ∃ registered,
    (m.register fs).2 = { m with
      registered := registered
      active := m.active || fs.all fun f => !m.foreign.contains f.name } := by
  induction fs generalizing m with
  | nil => exact ⟨m.registered, by simp [register]⟩
  | cons f fs ih =>
    rw [register]
    split
    · rename_i hf
      exact ⟨m.registered, by rw [List.all_cons, hf, Bool.not_true, Bool.false_and, Bool.or_false]⟩
    · rename_i hf
      obtain ⟨registered, h⟩ := ih { m with registered := m.registered ++ [f] }
      refine ⟨registered, ?_⟩
      rw [h, List.all_cons, Bool.eq_false_of_not_eq_true hf, Bool.not_false, Bool.true_and]

theorem setUp_of_attempted {m : Metrics} (h : m.attempted = true) : m.setUp.2 = m := by
  unfold setUp
  rw [if_pos h]

/-- The first setup registers families, and makes the metrics active if no name is taken. -/
theorem setUp_start (foreign : List String) : ∃ registered,
    (Usage.start foreign).metrics.setUp.2 =
      { foreign := foreign, attempted := true, registered := registered
        active := isFree foreign } := by
  obtain ⟨registered, h⟩ := register_eq { foreign := foreign, attempted := true } Family.all
  exact ⟨registered, h⟩

/-! ### Records -/

theorem get_bump (s : Series Counter) (label other : String) (amount : Nat) :
    (bump s label amount).get other {} =
      (s.get other {}).plus (if label = other then amount else 0) := by
  unfold bump Counter.plus
  by_cases h : amount = 0
  · simp [h]
  · rw [if_neg h, Series.get_update]
    by_cases hlabel : label = other <;> simp [hlabel, h]

variable {m : Metrics}

/-- **A record adds its amounts to the counters,** and to nothing else. -/
theorem counter_record (hm : m.active = true) (r : Record) (meter : Meter) :
    (m.record r).counter meter = (m.counter meter).plus (r.amount meter) := by
  have hzero : ∀ c : Counter, c.plus 0 = c := fun _ => rfl
  cases r with
  | fetch p ms faulted =>
    cases meter <;> cases faulted <;>
      simp [record, recordFetch, hm, counter, Record.amount, get_bump, hzero]
  | filtered p fresh duplicates =>
    cases meter <;> simp [record, recordFiltered, hm, counter, Record.amount, get_bump, hzero]
  | published p =>
    cases meter <;> simp [record, recordPublished, hm, counter, Record.amount, get_bump, hzero]
  | deliveries count =>
    cases meter with
    | deliveries =>
      by_cases h : count = 0 <;>
        simp [record, recordDeliveries, hm, counter, Record.amount, Counter.plus, h]
    | _ =>
      by_cases h : count = 0 <;>
        simp [record, recordDeliveries, hm, counter, Record.amount, hzero, h]
  | handled c success =>
    cases meter <;> cases success <;>
      simp [record, recordHandled, hm, counter, Record.amount, get_bump, hzero]

/-- A record leaves alone what the calls before it have to do with. -/
theorem record_frame (m : Metrics) (r : Record) : (m.record r).inFlight = m.inFlight ∧
    (m.record r).active = m.active ∧ (m.record r).attempted = m.attempted := by
  cases r with
  | handled c success =>
    simp only [record, recordHandled]
    split
    · split <;> exact ⟨rfl, rfl, rfl⟩
    · exact ⟨rfl, rfl, rfl⟩
  | _ =>
    simp only [record, recordFetch, recordFiltered, recordPublished, recordDeliveries]
    split <;> exact ⟨rfl, rfl, rfl⟩

theorem record_of_inactive (hm : m.active = false) (r : Record) : m.record r = m := by
  cases r <;>
    simp [record, recordFetch, recordFiltered, recordPublished, recordDeliveries, recordHandled, hm]

/-! ### Guards -/

section Guards

variable {foreign : List String} {past : List Call} {k : Nat}

/-- The guards as the calls tell of them. -/
def guardsOf (foreign : List String) (past : List Call) : List (Option Bool) :=
  (made foreign past).mapIdx fun k counted =>
    if givenUp foreign k past then none else some counted

theorem lt_of_givenUp (h : givenUp foreign k past = true) : k < (made foreign past).length := by
  induction past with
  | nil => simp [givenUp] at h
  | cons c past ih =>
    have hgrows : (made foreign past).length ≤ (made foreign (c :: past)).length := by
      cases c with
      | fetchStarted =>
        rw [made, List.length_append]
        exact Nat.le_add_right ..
      | _ => exact le_rfl
    rw [givenUp, Bool.or_eq_true, Bool.and_eq_true, decide_eq_true_eq] at h
    rcases h with h | ⟨-, h⟩
    · exact Nat.lt_of_lt_of_le (ih h) hgrows
    · exact Nat.lt_of_lt_of_le h hgrows

theorem givenUp_cons_of_ne {c : Call} (hc : ∀ k, c ≠ .fetchEnded k) (k : Nat) :
    givenUp foreign k (c :: past) = givenUp foreign k past := by
  have hne : (c == .fetchEnded k) = false := by simpa using hc k
  rw [givenUp, hne, Bool.false_and, Bool.or_false]

theorem guardsOf_setUp : guardsOf foreign (.setUp :: past) = guardsOf foreign past := by
  unfold guardsOf
  simp only [givenUp_cons_of_ne (c := .setUp) (by simp), made]

theorem guardsOf_record (r : Record) :
    guardsOf foreign (.record r :: past) = guardsOf foreign past := by
  unfold guardsOf
  simp only [givenUp_cons_of_ne (c := .record r) (by simp), made]

/-- A new guard counts if the metrics have been set up. -/
theorem guardsOf_started (foreign : List String) (past : List Call) :
    guardsOf foreign (.fetchStarted :: past) = guardsOf foreign past ++ [some (isSetUp foreign past)] := by
  have hnew : givenUp foreign (made foreign past).length past = false := by
    rw [← Bool.not_eq_true]
    exact fun h => (lt_of_givenUp h).false
  unfold guardsOf
  simp only [givenUp_cons_of_ne (c := .fetchStarted) (by simp), made, List.mapIdx_concat, hnew]
  rfl

theorem guardsOf_ended (foreign : List String) (past : List Call) (k : Nat) :
    guardsOf foreign (.fetchEnded k :: past) = (guardsOf foreign past).set k none := by
  have hmade : made foreign (.fetchEnded k :: past) = made foreign past := rfl
  unfold guardsOf
  refine List.ext_getElem? fun j => ?_
  rw [List.getElem?_mapIdx, hmade]
  by_cases hjk : k = j
  · subst hjk
    by_cases hlt : k < (made foreign past).length
    · rw [List.getElem?_set_self (by rwa [List.length_mapIdx]), List.getElem?_eq_getElem hlt]
      simp [givenUp, hlt]
    · rw [List.getElem?_set, if_pos rfl, if_neg (by rwa [List.length_mapIdx]),
        List.getElem?_eq_none (Nat.le_of_not_lt hlt)]
      rfl
  · have hne : (Call.fetchEnded k == .fetchEnded j) = false := by simpa using hjk
    rw [List.getElem?_set_ne hjk, List.getElem?_mapIdx]
    simp only [givenUp, hne, Bool.false_and, Bool.or_false]

theorem isSetUp_mono (c : Call) (h : isSetUp foreign past = true) :
    isSetUp foreign (c :: past) = true := by
  unfold isSetUp at h ⊢
  rw [Bool.and_eq_true] at h ⊢
  exact ⟨by simpa using Or.inr (by simpa using h.1), h.2⟩

/-- A guard that counts was made when the metrics had been set up, and they still are. -/
theorem isSetUp_of_mem_made (h : true ∈ made foreign past) : isSetUp foreign past = true := by
  induction past with
  | nil => simp [made] at h
  | cons c past ih =>
    refine isSetUp_mono c ?_
    cases c with
    | fetchStarted =>
      rw [made, List.mem_append, List.mem_singleton] at h
      rcases h with h | h
      · exact ih h
      · exact h.symm
    | _ => exact ih h

theorem mem_made_of_alive {counted : Bool} (h : (guardsOf foreign past)[k]? = some (some counted)) :
    counted ∈ made foreign past := by
  unfold guardsOf at h
  rw [List.getElem?_mapIdx] at h
  obtain ⟨b, hb, heq⟩ := Option.map_eq_some_iff.1 h
  split at heq
  · cases heq
  · obtain rfl := Option.some.inj heq
    exact List.mem_of_getElem? hb

/-- The guards that count and are alive. -/
theorem countP_guardsOf : (guardsOf foreign past).countP (· == some true) =
    (alive foreign past).length := by
  have hrange : guardsOf foreign past = (List.range (made foreign past).length).map fun k =>
      if givenUp foreign k past then none else (made foreign past)[k]? := by
    refine List.ext_getElem? fun k => ?_
    unfold guardsOf
    rw [List.getElem?_mapIdx, List.getElem?_map]
    by_cases hlt : k < (made foreign past).length
    · rw [List.getElem?_range hlt, List.getElem?_eq_getElem hlt, Option.map_some, Option.map_some,
        List.getElem?_eq_getElem hlt]
    · rw [List.getElem?_eq_none (Nat.le_of_not_lt hlt), List.getElem?_eq_none (by simpa using hlt)]
      rfl
  unfold alive
  rw [hrange, List.countP_map, List.countP_eq_length_filter]
  congr 1
  refine List.filter_congr fun k _ => ?_
  cases hgiven : givenUp foreign k past <;> simp [hgiven]

/-- Giving up a guard takes it from those that count. -/
theorem countP_set_none {l : List (Option Bool)} {counted : Bool}
    (h : l[k]? = some (some counted)) :
    (l.countP (· == some true) : Int) - (if counted then 1 else 0) =
      (l.set k none).countP (· == some true) := by
  obtain ⟨hlt, hget⟩ := List.getElem?_eq_some_iff.1 h
  rw [List.countP_set hlt, hget]
  cases counted with
  | false => simp
  | true =>
    have hpos : 0 < l.countP (· == some true) :=
      List.countP_pos_iff.2 ⟨some true, List.mem_of_getElem? h, rfl⟩
    simp only [if_true, beq_self_eq_true, Bool.false_eq_true, if_false, Nat.add_zero,
      show (none == some true) = false from rfl]
    omega

end Guards

/-! ### Every call -/

/-- **The metrics and the guards are what the calls tell.** -/
structure Faithful (foreign : List String) (past : List Call) (u : Usage) : Prop where
  attempted : u.metrics.attempted = past.contains .setUp
  active : u.metrics.active = isSetUp foreign past
  guards : u.guards = guardsOf foreign past
  gauge : u.metrics.inFlight = (u.guards.countP (· == some true) : Int)
  counters : ∀ meter, u.metrics.counter meter = Counter.sum (recorded foreign meter past)
  /-- Metrics that are not active are as they were, or as a setup has left them that failed. -/
  dormant : u.metrics.active = false → u.metrics =
    if past.contains .setUp then (Usage.start foreign).metrics.setUp.2
    else (Usage.start foreign).metrics

namespace Faithful

variable {foreign : List String} {past : List Call} {u : Usage}

theorem start (foreign : List String) : Faithful foreign [] (Usage.start foreign) where
  attempted := rfl
  active := rfl
  guards := rfl
  gauge := rfl
  counters meter := by cases meter <;> rfl
  dormant _ := rfl

theorem setUp (h : Faithful foreign past u) :
    Faithful foreign (.setUp :: past) (u.perform .setUp) := by
  obtain ⟨registered, hfirst⟩ := setUp_start foreign
  have hset : (Call.setUp :: past).contains .setUp = true := by simp
  have hguards : u.guards = guardsOf foreign (.setUp :: past) := h.guards.trans guardsOf_setUp.symm
  cases hold : past.contains .setUp with
  | true =>
    have hsame : u.perform .setUp = u := by
      show Usage.mk u.metrics.setUp.2 u.guards = u
      rw [setUp_of_attempted (h.attempted.trans hold)]
    have hactive : isSetUp foreign (.setUp :: past) = isSetUp foreign past := by
      unfold isSetUp
      rw [hset, hold]
    rw [hsame]
    refine ⟨by rw [h.attempted, hset, hold], by rw [h.active, hactive], hguards, h.gauge,
      h.counters, fun hno => ?_⟩
    rw [h.dormant hno, if_pos hset, if_pos hold]
  | false =>
    have hno : u.metrics.active = false := by
      rw [h.active]
      unfold isSetUp
      rw [hold, Bool.false_and]
    have hstart : u.metrics = (Usage.start foreign).metrics := by
      rw [h.dormant hno, if_neg (by rw [hold]; decide)]
    have hmetrics : (u.perform .setUp).metrics = (Usage.start foreign).metrics.setUp.2 := by
      show u.metrics.setUp.2 = _
      rw [hstart]
    refine ⟨?_, ?_, hguards, ?_, fun meter => ?_, fun _ => by rw [hmetrics, if_pos hset]⟩
    · rw [hmetrics, hfirst, hset]
    · unfold isSetUp
      rw [hmetrics, hfirst, hset, Bool.true_and]
    · show (u.perform .setUp).metrics.inFlight = (u.guards.countP (· == some true) : Int)
      rw [← h.gauge, hmetrics, hfirst, hstart]
      rfl
    · have hcounter := h.counters meter
      rw [hstart] at hcounter
      rw [hmetrics, hfirst]
      exact (by cases meter <;> rfl : _ = _).trans hcounter

/-- A call other than the setup, which changes nothing as long as the metrics are not active. -/
theorem of_frame (h : Faithful foreign past u) {c : Call} (hc : c ≠ .setUp) {u' : Usage}
    (hattempted : u'.metrics.attempted = u.metrics.attempted)
    (hactive : u'.metrics.active = u.metrics.active)
    (hguards : u'.guards = guardsOf foreign (c :: past))
    (hgauge : u'.metrics.inFlight = (u'.guards.countP (· == some true) : Int))
    (hcounters : ∀ meter,
      u'.metrics.counter meter = Counter.sum (recorded foreign meter (c :: past)))
    (hsame : u.metrics.active = false → u'.metrics = u.metrics) :
    Faithful foreign (c :: past) u' := by
  have hset : (c :: past).contains .setUp = past.contains .setUp := by
    have hne : (Call.setUp == c) = false := by simpa using hc.symm
    rw [List.contains_cons, hne, Bool.false_or]
  refine ⟨by rw [hattempted, h.attempted, hset], ?_, hguards, hgauge, hcounters, fun hno => ?_⟩
  · unfold isSetUp
    rw [hactive, h.active, hset]
    rfl
  · rw [hactive] at hno
    rw [hsame hno, hset]
    exact h.dormant hno

theorem fetchStarted (h : Faithful foreign past u) :
    Faithful foreign (.fetchStarted :: past) (u.perform .fetchStarted) := by
  have hguards := guardsOf_started foreign past
  rw [← h.guards, ← h.active] at hguards
  cases hold : u.metrics.active with
  | true =>
    have hperform : u.perform .fetchStarted =
        ⟨{ u.metrics with inFlight := u.metrics.inFlight + 1 }, u.guards ++ [some true]⟩ := by
      simp only [Usage.perform, Metrics.fetchStarted, hold, if_true]
    rw [hperform]
    refine h.of_frame (by simp) rfl rfl (by rw [hguards, hold]) ?_ h.counters
      fun hno => by simp [hold] at hno
    show u.metrics.inFlight + 1 = ((u.guards ++ [some true]).countP (· == some true) : Int)
    rw [h.gauge, List.countP_append]
    rfl
  | false =>
    have hperform : u.perform .fetchStarted = ⟨u.metrics, u.guards ++ [some false]⟩ := by
      simp only [Usage.perform, Metrics.fetchStarted, hold, Bool.false_eq_true, if_false]
    rw [hperform]
    refine h.of_frame (by simp) rfl rfl (by rw [hguards, hold]) ?_ h.counters fun _ => rfl
    show u.metrics.inFlight = ((u.guards ++ [some false]).countP (· == some true) : Int)
    rw [h.gauge, List.countP_append]
    rfl

/-- A guard that is not alive cannot be given up. -/
theorem set_none_of_not_alive {l : List (Option Bool)} {k : Nat}
    (h : ∀ counted, l[k]? ≠ some (some counted)) : l.set k none = l := by
  rcases hget : l[k]? with _ | _ | counted
  · exact List.set_eq_of_length_le (List.getElem?_eq_none_iff.1 hget)
  · obtain ⟨hlt, hval⟩ := List.getElem?_eq_some_iff.1 hget
    rw [← hval]
    exact List.set_getElem_self hlt
  · exact absurd hget (h counted)

theorem fetchEnded (h : Faithful foreign past u) (k : Nat) :
    Faithful foreign (.fetchEnded k :: past) (u.perform (.fetchEnded k)) := by
  have hguards := guardsOf_ended foreign past k
  rw [← h.guards] at hguards
  by_cases halive : ∃ counted, u.guards[k]? = some (some counted)
  · obtain ⟨counted, hk⟩ := halive
    have hactive : counted = true → u.metrics.active = true := by
      rintro rfl
      rw [h.guards] at hk
      rw [h.active]
      exact isSetUp_of_mem_made (mem_made_of_alive hk)
    have hmetrics : u.metrics.fetchEnded counted =
        { u.metrics with inFlight := u.metrics.inFlight - if counted then 1 else 0 } := by
      cases counted with
      | false => simp [Metrics.fetchEnded]
      | true => simp [Metrics.fetchEnded, hactive rfl]
    have hperform : u.perform (.fetchEnded k) =
        ⟨u.metrics.fetchEnded counted, u.guards.set k none⟩ := by
      simp only [Usage.perform, hk]
    rw [hperform, hmetrics]
    refine h.of_frame (by simp) rfl rfl hguards.symm ?_ h.counters fun hno => ?_
    · show u.metrics.inFlight - (if counted then 1 else 0) = _
      rw [h.gauge]
      exact countP_set_none hk
    · cases counted with
      | false => simp
      | true => simp [hactive rfl] at hno
  · push Not at halive
    have hperform : u.perform (.fetchEnded k) = u := by
      simp only [Usage.perform]
    rw [hperform]
    exact h.of_frame (by simp) rfl rfl (by rw [hguards, set_none_of_not_alive halive]) h.gauge
      h.counters fun _ => rfl

theorem record (h : Faithful foreign past u) (r : Record) :
    Faithful foreign (.record r :: past) (u.perform (.record r)) := by
  obtain ⟨hgauge, hactive, hattempted⟩ := record_frame u.metrics r
  refine h.of_frame (by simp) hattempted hactive (by rw [guardsOf_record, ← h.guards]; rfl)
    (hgauge.trans h.gauge) (fun meter => ?_) fun hno => record_of_inactive hno r
  show (u.metrics.record r).counter meter = _
  cases hold : u.metrics.active with
  | true =>
    rw [counter_record hold, h.counters, recorded, if_pos (by rw [← h.active, hold])]
    rfl
  | false =>
    rw [record_of_inactive hold, h.counters, recorded,
      if_neg (by rw [← h.active, hold]; decide)]

/-- **Every call keeps the metrics and the guards faithful.** -/
theorem perform (h : Faithful foreign past u) (c : Call) :
    Faithful foreign (c :: past) (u.perform c) := by
  cases c with
  | setUp => exact h.setUp
  | fetchStarted => exact h.fetchStarted
  | fetchEnded k => exact h.fetchEnded k
  | record r => exact h.record r

theorem after (foreign : List String) (past : List Call) :
    Faithful foreign past (Usage.after foreign past) := by
  induction past with
  | nil => exact Faithful.start foreign
  | cons c past ih => exact ih.perform c

end Faithful

/-- **The gauge is balanced, and the counters are sums,** whenever the metrics are set up. A program
calls the metrics in any order, while some names are taken. Then

* the metrics are set up once that was asked for, if no family's name is taken;
* the gauge is the number of guards that are alive and were made once the metrics had been set up;
  so it is not negative, and zero when no guard is alive;
* what a counter has counted is the sum of the amounts recorded for it since the metrics were set
  up. It shows this sum as long as the sum is at most `2 ^ 53`; every amount is added in binary
  floating point, so a larger sum may be rounded;
* as long as the metrics are not set up, nothing but the attempt to set them up leaves a trace. -/
theorem gauge_balanced (foreign : List String) (past : List Call) :
    let m := (Usage.after foreign past).metrics
    (m.active = true ↔ .setUp ∈ past ∧ ∀ f : Family, f.name ∉ foreign) ∧
    (m.inFlight = (alive foreign past).length ∧ 0 ≤ m.inFlight ∧
      ((∀ k < (made foreign past).length, givenUp foreign k past = true) → m.inFlight = 0)) ∧
    (∀ meter, m.counter meter = Counter.sum (recorded foreign meter past) ∧
      (m.counter meter).total = (recorded foreign meter past).sum ∧
      ((recorded foreign meter past).sum ≤ 2 ^ 53 → ∃ j, (m.counter meter).shown.toFraction =
        ((recorded foreign meter past).sum * 2 ^ j, 2 ^ j))) ∧
    (m.active = false → m = if past.contains .setUp then (Usage.start foreign).metrics.setUp.2
      else (Usage.start foreign).metrics) := by
  intro m
  have h : Faithful foreign past (Usage.after foreign past) := Faithful.after foreign past
  have hgauge : m.inFlight = ((alive foreign past).length : Int) := by
    rw [h.gauge, h.guards, countP_guardsOf]
  refine ⟨?_, ⟨hgauge, by rw [hgauge]; omega, fun hall => ?_⟩, fun meter => ⟨h.counters meter, ?_,
    fun hle => ?_⟩, h.dormant⟩
  · rw [h.active, isSetUp, Bool.and_eq_true, isFree_iff, List.contains_iff_mem]
  · have hnone : alive foreign past = [] := List.filter_eq_nil_iff.2 fun k hk => by
      simp [hall k (List.mem_range.1 hk)]
    rw [hgauge, hnone]
    rfl
  · rw [h.counters, Counter.total_sum]
  · rw [h.counters, Counter.shown_sum hle]
    exact Binary64.toFraction_ofNat hle

/-- One event after `2 ^ 53` is not shown. -/
theorem counter_rounded :
    let past : List Call :=
      [.record (.filtered "p" 1 0), .record (.filtered "p" (2 ^ 53) 0), .setUp]
    let shown := ((Usage.after [] past).metrics.counter (.fresh "p")).shown
    (recorded [] (.fresh "p") past).sum = 2 ^ 53 + 1 ∧ shown.toFraction = (2 ^ 53, 1) ∧
      shown.write = "9007199254740992" := by
  refine ⟨by decide +kernel, by decide +kernel, by decide +kernel⟩

end Metrics
end StatusRelay
