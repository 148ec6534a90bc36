/-
# Settings

What the program can be told, in five sections, with what holds when nothing is said.

| section | setting | otherwise |
| --- | --- | --- |
| scheduler | how many fetches may go on at once | 20 |
| bus | how many events a queue holds | no limit |
| http | the seconds after which a request is given up | 30 |
| | how we call ourselves | name and version |
| logging | level and format | `info`, `text` |
| consumers | whether events are printed | yes |
| | the webhooks | none |
-/

import StatusRelay.Webhook

namespace StatusRelay

/-- The settings of the program. -/
structure Settings where
  concurrencyLimit : Nat := 20
  /-- How many events a queue holds; no limit if absent. -/
  queueCapacity : Option Nat := none
  requestTimeoutSecs : Nat := 30
  userAgent : String := "statuswatch/0.1.0"
  logLevel : String := "info"
  logFormat : String := "text"
  /-- Whether events are printed. -/
  console : Bool := true
  webhooks : List Webhook := []
  deriving DecidableEq, Repr, Inhabited

namespace Settings

/-- Why the program cannot run with some settings. -/
inductive Fault where
  | noConcurrency
  | noQueueCapacity
  | noRequestTimeout
  | unknownLogFormat (format : String)
  | badWebhook (url : String) (fault : Webhook.Fault)
  deriving DecidableEq, Repr

/-- The wording of a fault. -/
def Fault.message : Fault → String
  | noConcurrency => "concurrency_limit must be greater than 0"
  | noQueueCapacity => "queue_capacity must be greater than 0 when set"
  | noRequestTimeout => "request_timeout_secs must be greater than 0"
  | unknownLogFormat format => "log format must be 'text' or 'json', got '" ++ format ++ "'"
  | badWebhook url fault => "invalid webhook '" ++ url ++ "': " ++ fault.message

/-- Checks webhooks in order. -/
def checkWebhooks : List Webhook → Except Fault Unit
  | [] => .ok ()
  | w :: ws =>
    match w.check with
    | .error fault => .error (.badWebhook w.url fault)
    | .ok _ => checkWebhooks ws

/-- Checks the settings. The first fault is reported. -/
def check (s : Settings) : Except Fault Unit :=
  if s.concurrencyLimit = 0 then .error .noConcurrency
  else if s.queueCapacity = some 0 then .error .noQueueCapacity
  else if s.requestTimeoutSecs = 0 then .error .noRequestTimeout
  else if s.logFormat ≠ "text" ∧ s.logFormat ≠ "json" then .error (.unknownLogFormat s.logFormat)
  else checkWebhooks s.webhooks

end Settings
end StatusRelay
