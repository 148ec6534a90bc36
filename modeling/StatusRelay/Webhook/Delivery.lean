/-
# Delivery to a webhook

An event is sent as JSON by a `POST` request. It is sent again after a lost exchange and after any
answer whose status is neither a success (2xx) nor the fault of the request (4xx), as often as the
endpoint allows, and after a pause each time. The result is that of the last attempt.

| attempt | result | tried again |
| --- | --- | --- |
| 2xx | delivered | no |
| 4xx | rejected | no |
| other status | rejected | yes |
| lost, or cannot be sent | lost | yes |
-/

import StatusRelay.Event.Json
import StatusRelay.Failure
import StatusRelay.Http
import StatusRelay.Text.Encoding
import StatusRelay.Webhook

namespace StatusRelay.Webhook

/-- The request that carries an event, unless a header cannot be sent. -/
def request? (w : Webhook) (url : Url) (e : Event) : Option Http.Request := do
  let token ← match w.token with
    | none => some []
    | some t => (Http.header? "authorization" ("Bearer " ++ t)).map ([·])
  let others ← w.headers.mapM fun h => Http.header? h.1 h.2
  let headers := token ++ others
  let own : List Http.Header :=
    if headers.any fun h => h.name == "content-type" then []
    else [⟨"content-type", "application/json".toList⟩]
  return ⟨"POST", url.target, headers ++ own, some e.toJson⟩

/-- Whether the request is not repeated after a reply. -/
def isFinal : Http.Reply → Bool
  | .lost => false
  | .answered status .. => (200 ≤ status && status < 300) || (400 ≤ status && status < 500)

/-- What a reply says of the delivery; nothing if all is well. -/
def failure? : Http.Reply → Option ConsumerFailure
  | .lost => some (.http "")
  | .answered status _ body =>
    if 200 ≤ status ∧ status < 300 then none
    else some (.rejected status (match body with
      | some bytes => String.ofList (Text.decodeMarked bytes)
      | none => "Unable to read response body"))

/-! ### The attempts -/

/-- A step of a delivery: a pause of so many milliseconds, or an attempt with what it sends. -/
inductive Step (α : Type) where
  | pause (ms : Nat)
  | send (sent : α)
  deriving DecidableEq, Repr

/-- The course of a delivery: its steps in order, and the failure it ends in, if any. -/
structure Course (α : Type) where
  steps : List (Step α)
  failure : Option ConsumerFailure
  deriving DecidableEq, Repr

variable {α : Type}

/-- What precedes an attempt, counted from zero. The first is made at once. -/
def lead (w : Webhook) (attempt : Nat) : List (Step α) :=
  if attempt = 0 then [] else [.pause (w.retryDelay attempt)]

/-- The course from an attempt on, with so many attempts left. An attempt is given by its number:
what it sends, and the reply. The failure so far is that of the attempt before. -/
def tryFrom (w : Webhook) (exchange : Nat → α × Http.Reply) (attempt : Nat)
    (failed : Option ConsumerFailure) : Nat → Course α
  | 0 => ⟨[], some (failed.getD (.other "Unknown error"))⟩
  | left + 1 =>
    let (sent, reply) := exchange attempt
    let steps := w.lead attempt ++ [.send sent]
    match failure? reply with
    | none => ⟨steps, none⟩
    | some failure =>
      if isFinal reply then ⟨steps, some failure⟩
      else
        let rest := w.tryFrom exchange (attempt + 1) (some failure) left
        ⟨steps ++ rest.steps, rest.failure⟩

/-- The course of a delivery from its first attempt on. -/
def tryAll (w : Webhook) (exchange : Nat → α × Http.Reply) : Course α :=
  w.tryFrom exchange 0 none (w.maxRetries + 1)

/-- The reply to an attempt to send an event. A request that cannot be built has none. -/
def replyTo (w : Webhook) (url : Url) (e : Event) (reply : Nat → Http.Reply) (attempt : Nat) :
    Http.Reply :=
  if (w.request? url e).isSome then reply attempt else .lost

/-- The course of an event to an address, with the requests. -/
def process (w : Webhook) (url : Url) (e : Event) (reply : Nat → Http.Reply) :
    Course (Option Http.Request) :=
  w.tryAll fun attempt => (w.request? url e, w.replyTo url e reply attempt)

/-! ### The time it takes -/

/-- How many attempts there are among some steps. -/
def attemptsIn : List (Step α) → Nat
  | [] => 0
  | .pause _ :: steps => attemptsIn steps
  | .send _ :: steps => attemptsIn steps + 1

/-- How many milliseconds some steps take. An attempt takes no time. -/
def waitedIn : List (Step α) → Nat
  | [] => 0
  | .pause ms :: steps => ms + waitedIn steps
  | .send _ :: steps => waitedIn steps

/-- The delivery of one event. -/
structure Delivery where
  /-- How many times the request was sent. -/
  attempts : Nat
  /-- How many milliseconds were spent on pauses. -/
  waited : Nat
  failure : Option ConsumerFailure
  deriving DecidableEq, Repr

/-- What a course comes to. -/
def Course.delivery (c : Course α) : Delivery := ⟨attemptsIn c.steps, waitedIn c.steps, c.failure⟩

/-- The delivery of an event, given the reply to each attempt, counted from zero. -/
def deliver (w : Webhook) (reply : Nat → Http.Reply) : Delivery :=
  (w.tryAll fun attempt => ((), reply attempt)).delivery

end StatusRelay.Webhook
