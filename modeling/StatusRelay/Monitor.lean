/-
# The monitor

A monitor is built from settings, providers and sinks, and run once, until it is told to stop or
until no worker is left. The consumers are subscribed before the first worker starts, so none of
them misses an event; what is in their queues at the end stays there.

Building can fail at a webhook. Running fails before it begins when the settings are not valid, or
when they allow more fetches at once than a scheduler can count. It does not fail later. Queues of
a size that cannot be made are found out only when a consumer is to be subscribed.
-/

import StatusRelay.Scheduler
import StatusRelay.Settings
import StatusRelay.Sinks

namespace StatusRelay

/-- A monitor that has not been run. -/
structure Monitor where
  settings : Settings
  registry : Registry Provider := .empty
  sinks : List Sink := []

namespace Monitor

/-- What a run has come to. -/
structure Report where
  workers : List WorkerSummary
  consumers : List ConsumerSummary
  eventsPublished : Nat
  deliveries : Nat
  /-- How many keys were admitted. -/
  uniqueEvents : Nat
  deriving DecidableEq, Repr

namespace Report

/-- The JSON of a report. -/
def toJson (r : Report) : Json := .obj [
  ("workers", .arr (r.workers.map WorkerSummary.toJson)),
  ("consumers", .arr (r.consumers.map ConsumerSummary.toJson)),
  ("events_published", .int r.eventsPublished),
  ("deliveries", .int r.deliveries),
  ("unique_events", .int r.uniqueEvents)]

end Report

/-! ### Building -/

/-- Registers a provider under its name. -/
def register (m : Monitor) (p : Provider) : Except RegistryFailure Monitor :=
  (m.registry.register p.name p).map fun registry => { m with registry := registry }

/-- Adds a sink. -/
def addSink (m : Monitor) (sink : Sink) : Monitor := { m with sinks := m.sinks ++ [sink] }

/-- Adds sinks for webhooks, up to one that is not valid. The replies are given by the number of
the webhook, the event and the attempt. -/
def addWebhooks (m : Monitor) (reply : Nat → Nat → Nat → Http.Reply) (number : Nat) :
    List Webhook → Option ConsumerFailure × Monitor
  | [] => (none, m)
  | w :: ws =>
    match w.check with
    | .error fault => (some (.invalidConfig fault.message), m)
    | .ok _ => (m.addSink (.webhook w (reply number))).addWebhooks reply (number + 1) ws

/-- Adds the sinks that the settings name. -/
def addConfigured (m : Monitor) (reply : Nat → Nat → Nat → Http.Reply) :
    Option ConsumerFailure × Monitor :=
  let m := if m.settings.console then m.addSink .console else m
  m.addWebhooks reply 0 m.settings.webhooks

/-- A monitor as a developer sees it. -/
def describe (m : Monitor) : String :=
  "StatusMonitor \x7b providers: " ++ Text.quotedList m.registry.names ++ ", consumers: " ++
    Text.quotedList (m.sinks.map (·.name)) ++ " \x7d"

/-! ### Running -/

/-- Why a run does not begin. -/
inductive Fault where
  | failed (failure : Failure)
  /-- The queues of the bus cannot be made. -/
  | queueTooLarge
  deriving DecidableEq, Repr

/-- Subscribes and starts a consumer for each sink. -/
def consumeAll (w : World) : List Sink → Option World
  | [] => some w
  | sink :: sinks => do
    let (queue, w) ← w.subscribe?
    consumeAll (w.consume sink queue) sinks

/-- The world in which the consumers and the workers have been started, and nothing has moved. -/
def open? (m : Monitor) : Except Fault World :=
  match m.settings.check with
  | .error fault => .error (.failed (.config fault.message))
  | .ok _ =>
    match Scheduler.new m.settings.concurrencyLimit m.settings.queueCapacity m.registry with
    | .error f => .error (.failed (.scheduler f))
    | .ok scheduler =>
      match consumeAll scheduler.world m.sinks with
      | none => .error .queueTooLarge
      | some w => .ok w.start

/-- Whether all workers have come to their end. -/
def isOver (w : World) : Bool := (w.result? 0).isSome

/-- The world at the end of a run that is stopped at a moment, if one is given. -/
def close (w : World) (moment : Option Nat) : World :=
  let w := if moment = some 0 ∨ isOver w then w else w.runUntil isOver moment
  w.stop.settle

/-- The report of a run that has come to its end. -/
def report (w : World) : Report where
  workers := (w.result? 0).getD []
  consumers := w.consumers.filterMap Consumer.report?
  eventsPublished := w.bus.stats.published
  deliveries := w.bus.stats.deliveries
  uniqueEvents := w.admission.size

/-- What is printed in a run. -/
def printed (w : World) : String :=
  w.log.foldr (fun o text =>
    match o.what with
    | .handled "console" e .done => text ++ e.consoleLine
    | _ => text) ""

end Monitor
end StatusRelay
