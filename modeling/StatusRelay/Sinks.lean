/-
# The sinks of the program

The console takes every event at once. A webhook takes as long as its pauses, and fails when the
delivery does; what the other end replies is given from outside.
-/

import StatusRelay.Consumer
import StatusRelay.Webhook.Delivery

namespace StatusRelay.Sink

/-- The sink that prints events. -/
def console : Sink where
  name := "console"
  handle _ _ := {}

/-- The sink that sends events to an endpoint. The replies are given by the number of the event
and the number of the attempt, both from zero. -/
def webhook (w : Webhook) (reply : Nat → Nat → Http.Reply) : Sink where
  name := "webhook"
  handle n _ :=
    let delivery := w.deliver (reply n)
    ⟨delivery.waited, if delivery.failure.isNone then .done else .failed⟩

end StatusRelay.Sink
