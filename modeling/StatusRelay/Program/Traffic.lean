/-
# What a run asks of others

A run polls the status page and sends events to webhooks. What it asks next depends on the replies
so far and on the time, and on nothing else. So a run can be followed with a transcript of the
replies: the world that they lead to tells the first request that has no reply yet.

| request | made |
| --- | --- |
| a poll | whenever the worker of the status page begins a fetch |
| the first attempt to send an event | when a consumer takes the event |
| a further attempt | after the pause that follows the attempt before it |
-/

import StatusRelay.Program

namespace StatusRelay
namespace Program

open CommandLine (RunOptions)

/-! ### Polls -/

/-- How many polls have been begun. -/
def pollCount (w : World) : Nat := w.providers.foldl (fun n p => n + p.calls) 0

/-- The poll with a number, unless the address of the page is none. -/
def pollRequest? (settings : Settings) (o : RunOptions) (others : Others) (n : Nat) :
    Option (Url × Http.Request) :=
  match Url.read (page o).address.toList with
  | .ok url =>
    some (url, ((page o).after (pageOutside settings others) n).request
      (some settings.userAgent) url)
  | .error _ => none

/-! ### Webhooks -/

/-- An attempt to send an event. -/
structure Attempt where
  /-- The number of the webhook. -/
  webhook : Nat
  /-- The number of the event among those that the webhook was given. -/
  event : Nat
  /-- The number of the attempt. -/
  attempt : Nat
  /-- When it is made. -/
  moment : Nat
  url : Url
  request : Http.Request
  deriving Inhabited

/-- The pauses before an attempt, counted from zero. -/
def pauses (hook : Webhook) : Nat → Nat
  | 0 => 0
  | n + 1 => pauses hook n + hook.retryDelay (n + 1)

/-- The events that a task has taken, with their moments. -/
def takenBy (w : World) (task : Nat) : List (Nat × Event) :=
  w.log.reverse.filterMap fun o =>
    match o.what with
    | .taken e => if o.task = task then some (o.time, e) else none
    | _ => none

/-- The attempts of a webhook, given its number and the events it was given. A request that cannot
be sent is no attempt. -/
def attemptsOf (number : Nat) (hook : Webhook) (reply : Nat → Nat → Http.Reply)
    (taken : List (Nat × Event)) : List Attempt :=
  match hook.check with
  | .error _ => []
  | .ok url => taken.zipIdx.flatMap fun ((moment, e), n) =>
    match hook.request? url e with
    | none => []
    | some request => (List.range (hook.deliver (reply n)).attempts).map fun k =>
      ⟨number, n, k, moment + pauses hook k, url, request⟩

/-- The tasks of the webhooks, in their order. -/
def hookTasks (settings : Settings) (w : World) : List Nat :=
  let tasks := (List.range w.tasks.length).filter fun i =>
    match w.tasks[i]? with
    | some (.consumer _) => true
    | _ => false
  tasks.drop (if settings.console then 1 else 0)

/-- The attempts of all webhooks in the order in which they are made, those of the future
included as far as they are certain. -/
def attempts (settings : Settings) (others : Others) (w : World) : List Attempt :=
  let hooks := settings.webhooks.zip (hookTasks settings w)
  let all := hooks.zipIdx.flatMap fun ((hook, task), number) =>
    attemptsOf number hook (others.webhook number) (takenBy w task)
  all.mergeSort fun a b => a.moment ≤ b.moment

/-! ### Transcripts -/

/-- The replies so far: to the polls, with their times, and to the attempts, by the numbers of the
webhook, the event and the attempt. -/
structure Transcript where
  polls : List (Timestamp × Http.Reply) := []
  sent : List ((Nat × Nat × Nat) × Http.Reply) := []
  deriving Inhabited

/-- A request without a reply. -/
inductive Inquiry where
  | poll (url : Url) (request : Http.Request)
  | send (a : Attempt)
  deriving Inhabited

namespace Transcript

/-- The reply to an attempt, if there is one. -/
def reply? (t : Transcript) (webhook event attempt : Nat) : Option Http.Reply :=
  t.sent.lookup (webhook, event, attempt)

/-- The others as the transcript has them. What they have not replied to is lost. -/
def others (t : Transcript) : Others where
  page n _ _ := (t.polls[n]?.map (·.2)).getD .lost
  webhook i n k := (t.reply? i n k).getD .lost
  clock n := (t.polls[n]?.map (·.1)).getD default

/-- The first request up to now that has no reply. -/
def next? (t : Transcript) (settings : Settings) (o : RunOptions) (w : World) : Option Inquiry :=
  let poll := if t.polls.length < pollCount w then
      pollRequest? settings o t.others t.polls.length
    else none
  match poll with
  | some (url, request) => some (.poll url request)
  | none =>
    ((attempts settings t.others w).find? fun a =>
      a.moment ≤ w.now && (t.reply? a.webhook a.event a.attempt).isNone).map .send

/-- The moment of the next attempt or timer. -/
def nextMoment? (t : Transcript) (settings : Settings) (w : World) : Option Nat :=
  let later := ((attempts settings t.others w).map (·.moment)).filter fun m => w.now < m
  (later ++ w.nextTimer.toList).min?

end Transcript
end Program
end StatusRelay
