/-
# Metrics

Counters over what happens, kept from the moment they have been set up. Before that, and when the
setup failed, recording does nothing.

| family | label | counts |
| --- | --- | --- |
| `fetchDuration` | provider | fetches that came to an end, by the time they took |
| `fetchFaults` | provider | fetches that crashed |
| `inFlight` | | fetches going on now |
| `eventsNew`, `eventsDuplicate` | provider | events admitted, and events known before |
| `eventsPublished` | provider | events that a worker has published |
| `busDeliveries` | | events placed in queues |
| `consumerProcessed`, `consumerFailures` | consumer | events handled well, and not |

The setup is tried once. It registers the families in this order, and fails at one whose name
somebody else has taken: the families before it stay registered, and nothing is ever recorded.
-/

import StatusRelay.Binary64
import StatusRelay.Occurrence

namespace StatusRelay

/-- A family of metrics. -/
inductive Family where
  | fetchDuration | fetchFaults | inFlight | eventsNew | eventsDuplicate | eventsPublished
  | busDeliveries | consumerProcessed | consumerFailures
  deriving DecidableEq, Repr, Inhabited

namespace Family

/-- Every family, in the order of registration. -/
def all : List Family := [fetchDuration, fetchFaults, inFlight, eventsNew, eventsDuplicate,
  eventsPublished, busDeliveries, consumerProcessed, consumerFailures]

/-- The name under which a family is registered. -/
def name : Family → String
  | fetchDuration => "statuswatch_fetch_duration_seconds"
  | fetchFaults => "statuswatch_fetch_faults_total"
  | inFlight => "statuswatch_fetches_in_flight"
  | eventsNew => "statuswatch_events_new_total"
  | eventsDuplicate => "statuswatch_events_duplicate_total"
  | eventsPublished => "statuswatch_events_published_total"
  | busDeliveries => "statuswatch_bus_deliveries_total"
  | consumerProcessed => "statuswatch_consumer_processed_total"
  | consumerFailures => "statuswatch_consumer_failures_total"

/-- What a family says of itself. -/
def help : Family → String
  | fetchDuration => "Time spent in a provider fetch call in seconds"
  | fetchFaults => "Fetch calls that panicked instead of returning an empty result"
  | inFlight => "Provider fetch calls currently holding an admission permit"
  | eventsNew => "Events admitted by the deduplication store"
  | eventsDuplicate => "Events rejected as already seen"
  | eventsPublished => "Events published to the bus"
  | busDeliveries => "Events placed into subscriber queues"
  | consumerProcessed => "Events handled successfully by a consumer"
  | consumerFailures => "Events a consumer failed to handle"

end Family

/-- A counter: the exact total, and the total as it is shown, which is rounded each time. -/
structure Counter where
  total : Nat := 0
  shown : Binary64 := .zero
  deriving DecidableEq, Repr, Inhabited

namespace Counter

/-- Adds an amount. -/
def add (c : Counter) (amount : Nat) : Counter :=
  ⟨c.total + amount, c.shown + .ofNat amount⟩

end Counter

/-- Durations, by the bounds that they do not exceed. -/
structure Histogram where
  /-- For each bound, how many durations are at most that, and above the bound before. -/
  buckets : List Nat
  count : Nat
  /-- The sum of the durations in seconds. -/
  sum : Binary64
  deriving DecidableEq, Repr, Inhabited

namespace Histogram

/-- The bounds in milliseconds. -/
def bounds : List Nat := [50, 100, 250, 500, 1000, 2500, 5000, 10000, 30000, 60000]

/-- The histogram that has seen nothing. -/
def empty : Histogram := ⟨bounds.map fun _ => 0, 0, .zero⟩

/-- A number of milliseconds in seconds: the whole seconds, and the rest. -/
def seconds (ms : Nat) : Binary64 := .ofNat (ms / 1000) + .ofFraction (ms % 1000) 1000

/-- Adds one to the first bucket whose bound is not exceeded. -/
def place (ms : Nat) : List Nat → List Nat → List Nat
  | bound :: bounds, n :: ns => if ms ≤ bound then (n + 1) :: ns else n :: place ms bounds ns
  | _, ns => ns

/-- Adds a duration. -/
def observe (h : Histogram) (ms : Nat) : Histogram :=
  ⟨place ms bounds h.buckets, h.count + 1, h.sum + seconds ms⟩

/-- How many durations do not exceed each bound. -/
def cumulative (h : Histogram) : List Nat :=
  (List.range h.buckets.length).map fun k => (h.buckets.take (k + 1)).foldl (· + ·) 0

end Histogram

/-- One value for each label, in the order in which the labels came up. -/
abbrev Series (α : Type) := List (String × α)

namespace Series

variable {α : Type}

/-- The value of a label. -/
def get (s : Series α) (label : String) (initial : α) : α := (s.lookup label).getD initial

/-- Changes the value of a label, which comes up with an initial value. -/
def update (s : Series α) (label : String) (initial : α) (f : α → α) : Series α :=
  match s with
  | [] => [(label, f initial)]
  | (l, a) :: rest => if l = label then (l, f a) :: rest else (l, a) :: update rest label initial f

/-- A series in the order of the labels. -/
def sort (s : Series α) : Series α := s.mergeSort fun a b => !decide (b.1 < a.1)

end Series

/-- The metrics of the program. -/
structure Metrics where
  /-- Whether the setup has been tried. -/
  attempted : Bool := false
  /-- Whether it succeeded. -/
  active : Bool := false
  /-- The families that are registered. -/
  registered : List Family := []
  /-- Names that somebody else has registered. -/
  foreign : List String := []
  fetchDuration : Series Histogram := []
  fetchFaults : Series Counter := []
  inFlight : Int := 0
  eventsNew : Series Counter := []
  eventsDuplicate : Series Counter := []
  eventsPublished : Series Counter := []
  busDeliveries : Counter := {}
  consumerProcessed : Series Counter := []
  consumerFailures : Series Counter := []
  deriving DecidableEq, Repr, Inhabited

namespace Metrics

/-! ### Setting up -/

/-- Why the setup fails. -/
inductive SetupFailure where
  /-- The name of a family is taken. -/
  | taken (family : Family)
  deriving DecidableEq, Repr

namespace SetupFailure

/-- The wording of a setup failure. -/
def message : SetupFailure → String
  | taken _ => "Duplicate metrics collector registration attempted"

end SetupFailure

/-- Registers families one after another, up to one whose name is taken. -/
def register (m : Metrics) : List Family → Option SetupFailure × Metrics
  | [] => (none, { m with active := true })
  | f :: fs =>
    if m.foreign.contains f.name then (some (.taken f), m)
    else register { m with registered := m.registered ++ [f] } fs

/-- Sets the metrics up. A second attempt does nothing, and does not fail. -/
def setUp (m : Metrics) : Option SetupFailure × Metrics :=
  if m.attempted then (none, m) else { m with attempted := true }.register Family.all

/-- Whether a name is one that can be registered: a letter, an underscore or a colon, and such
characters or digits. -/
def isName (name : String) : Bool :=
  let isHead (c : Char) : Bool := c.isAlpha || c == '_' || c == ':'
  match name.toList with
  | [] => false
  | c :: cs => isHead c && cs.all fun c => isHead c || c.isDigit

/-- Registers a counter that is not one of the program's. The answer is whether its name was
free. -/
def claim (m : Metrics) (name : String) : Bool × Metrics :=
  if isName name && !m.foreign.contains name && !m.registered.any (fun f => f.name == name) then
    (true, { m with foreign := m.foreign ++ [name] })
  else (false, m)

/-! ### Recording -/

/-- Adds an amount to the counter of a label, unless there is nothing to add. -/
def bump (s : Series Counter) (label : String) (amount : Nat) : Series Counter :=
  if amount = 0 then s else s.update label {} (·.add amount)

/-- A fetch begins. The answer is whether it counts as going on. -/
def fetchStarted (m : Metrics) : Bool × Metrics :=
  if m.active then (true, { m with inFlight := m.inFlight + 1 }) else (false, m)

/-- A fetch goes on no longer; `counted` is whether its beginning was counted. -/
def fetchEnded (m : Metrics) (counted : Bool) : Metrics :=
  if counted && m.active then { m with inFlight := m.inFlight - 1 } else m

/-- Records a fetch that came to its end. -/
def recordFetch (m : Metrics) (provider : String) (ms : Nat) (faulted : Bool) : Metrics :=
  if m.active then { m with
    fetchDuration := m.fetchDuration.update provider .empty (·.observe ms)
    fetchFaults := bump m.fetchFaults provider (if faulted then 1 else 0) }
  else m

/-- Records how the events of a fetch were filtered. -/
def recordFiltered (m : Metrics) (provider : String) (fresh duplicates : Nat) : Metrics :=
  if m.active then { m with
    eventsNew := bump m.eventsNew provider fresh
    eventsDuplicate := bump m.eventsDuplicate provider duplicates }
  else m

/-- Records an event that a worker has published. -/
def recordPublished (m : Metrics) (provider : String) : Metrics :=
  if m.active then { m with eventsPublished := bump m.eventsPublished provider 1 } else m

/-- Records the deliveries of a publish. -/
def recordDeliveries (m : Metrics) (count : Nat) : Metrics :=
  if m.active && count != 0 then { m with busDeliveries := m.busDeliveries.add count } else m

/-- Records what became of an event. -/
def recordHandled (m : Metrics) (consumer : String) (success : Bool) : Metrics :=
  if m.active then
    if success then { m with consumerProcessed := bump m.consumerProcessed consumer 1 }
    else { m with consumerFailures := bump m.consumerFailures consumer 1 }
  else m

/-- Records an occurrence. The setup must not come between the beginning and the end of a
fetch. -/
def observe (m : Metrics) : Occurrence → Metrics
  | .fetchBegan => m.fetchStarted.2
  | .fetchEnded provider elapsed outcome =>
    (m.fetchEnded m.active).recordFetch provider elapsed outcome.isFault
  | .fetchAbandoned => m.fetchEnded m.active
  | .filtered provider fresh duplicates => m.recordFiltered provider fresh.length duplicates
  | .delivered _ count => m.recordDeliveries count
  | .published provider _ => m.recordPublished provider
  | .handled consumer _ outcome => m.recordHandled consumer outcome.isSuccess
  | .asked | .taken _ | .ended => m

/-- Records what has happened in a run, given with the latest first. -/
def observeAll (m : Metrics) (log : List Occurrence.Entry) : Metrics :=
  log.foldr (fun o m => m.observe o.what) m

end Metrics
end StatusRelay
