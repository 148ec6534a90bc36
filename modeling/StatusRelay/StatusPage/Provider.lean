/-
# The status page as a provider

Each fetch is one poll of the page. It never fails: a poll that brings nothing is a fetch without
events. The page remembers the tag of one poll for the next, so what a fetch brings depends on the
replies to those before it.
-/

import StatusRelay.Provider
import StatusRelay.StatusPage

namespace StatusRelay.StatusPage

/-- What is outside of a run: the name that the program gives, the replies to its polls, and the
time of each poll. -/
structure Outside where
  agent : Option String := none
  /-- The reply to a poll, counted from zero, by its address and its request. -/
  answer : Nat → Url → Http.Request → Http.Reply := fun _ _ _ => .lost
  clock : Nat → Timestamp := fun _ => default

/-- The page after so many polls. -/
def after (p : StatusPage) (o : Outside) : Nat → StatusPage
  | 0 => p
  | n + 1 => ((p.after o n).poll o.agent (o.answer n)).2

/-- The incidents that a poll brings. -/
def incidents (p : StatusPage) (o : Outside) (n : Nat) : List Incident :=
  ((p.after o n).poll o.agent (o.answer n)).1

/-- The events that a poll brings. -/
def events (p : StatusPage) (o : Outside) (n : Nat) : List Event :=
  (p.incidents o n).flatMap fun i => i.events (o.clock n)

/-- The page as a provider. -/
def provider (p : StatusPage) (o : Outside) : Provider where
  name := Incident.provider
  interval := intervalSeconds * 1000
  fetch n := { outcome := .events (p.events o n) }

end StatusRelay.StatusPage
