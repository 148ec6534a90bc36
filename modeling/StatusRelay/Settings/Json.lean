/-
# Settings as JSON

The settings are an object of their sections, each an object of its settings. What is absent by
default is left out.

They are read back more freely: a section or a setting may be missing, members that are not known
are passed over, and an object may be given as an array of its values in order. Of such an array
the end may be missing; values beyond the last are an error, or passed over, as `strict` says.
-/

import StatusRelay.Json
import StatusRelay.Settings

namespace StatusRelay

namespace Webhook

/-- The JSON of an endpoint. -/
def toJson (w : Webhook) : Json :=
  .obj <| [("url", .str w.url)] ++ (w.token.map fun t => ("auth_token", .str t)).toList ++
    [("headers", .obj (w.headers.map fun (k, v) => (k, .str v))),
      ("timeout_secs", .int w.timeoutSecs), ("max_retries", .int w.maxRetries),
      ("retry_base_delay_ms", .int w.retryBaseDelayMs)]

end Webhook

namespace Settings

/-- The JSON of the settings. -/
def toJson (s : Settings) : Json := .obj [
  ("scheduler", .obj [("concurrency_limit", .int s.concurrencyLimit)]),
  ("bus", .obj (s.queueCapacity.map fun n => ("queue_capacity", .int n)).toList),
  ("http", .obj [("request_timeout_secs", .int s.requestTimeoutSecs),
    ("user_agent", .str s.userAgent)]),
  ("logging", .obj [("level", .str s.logLevel), ("format", .str s.logFormat)]),
  ("consumers", .obj [("console", .bool s.console),
    ("webhooks", .arr (s.webhooks.map Webhook.toJson))])]

/-! ### Reading -/

/-- The values of an object for some names, by name or by place. -/
def fields? (strict : Bool) (names : List String) : Json → Option (List (Option Json))
  | .obj ms => some (names.map fun name => (Json.obj ms).get? name)
  | .arr xs =>
    if strict ∧ names.length < xs.length then none
    else some ((List.range names.length).map fun k => xs[k]?)
  | _ => none

/-- A value that may be missing. -/
def orElse {α : Type} (otherwise : α) (read : Json → Option α) : Option Json → Option α
  | none => some otherwise
  | some j => read j

/-- A value that may be missing or null. -/
def orNull {α : Type} (read : Json → Option α) : Option Json → Option (Option α)
  | none | some .null => some none
  | some j => (read j).map some

/-- A number of so many bits. -/
def readWord (bits : Nat) : Json → Option Nat
  | .int n => if 0 ≤ n ∧ n < Nat.pow 2 bits then some n.toNat else none
  | _ => none

/-- A text. -/
def readText : Json → Option String
  | .str s => some s
  | _ => none

/-- A truth value. -/
def readBool : Json → Option Bool
  | .bool b => some b
  | _ => none

/-- Names with their texts. -/
def readHeaders : Json → Option (List (String × String))
  | .obj ms => ms.mapM fun (k, v) => (readText v).map (k, ·)
  | _ => none

/-- The names of the settings of an endpoint, in order. -/
def webhookNames : List String :=
  ["url", "auth_token", "headers", "timeout_secs", "max_retries", "retry_base_delay_ms"]

/-- An endpoint, whose address must be there. -/
def readWebhook (strict : Bool) (j : Json) : Option Webhook := do
  let standard : Webhook := { url := "" }
  match ← fields? strict webhookNames j with
  | [some url, token, headers, timeout, retries, delay] =>
    return {
      url := ← readText url
      token := ← orNull readText token
      headers := ← orElse [] readHeaders headers
      timeoutSecs := ← orElse standard.timeoutSecs (readWord 64) timeout
      maxRetries := ← orElse standard.maxRetries (readWord 32) retries
      retryBaseDelayMs := ← orElse standard.retryBaseDelayMs (readWord 64) delay }
  | _ => none

/-- Endpoints in order. -/
def readWebhooks (strict : Bool) : Json → Option (List Webhook)
  | .arr xs => xs.mapM (readWebhook strict)
  | _ => none

/-- Puts a section into settings. -/
abbrev Section := Json → Settings → Option Settings

/-- The section of the scheduler. -/
def readScheduler (strict : Bool) : Section := fun j s => do
  match ← fields? strict ["concurrency_limit"] j with
  | [limit] => return { s with concurrencyLimit := ← orElse s.concurrencyLimit (readWord 64) limit }
  | _ => none

/-- The section of the bus. -/
def readBus (strict : Bool) : Section := fun j s => do
  match ← fields? strict ["queue_capacity"] j with
  | [capacity] => return { s with queueCapacity := ← orNull (readWord 64) capacity }
  | _ => none

/-- The section of requests. -/
def readHttp (strict : Bool) : Section := fun j s => do
  match ← fields? strict ["request_timeout_secs", "user_agent"] j with
  | [timeout, agent] =>
    return { s with
      requestTimeoutSecs := ← orElse s.requestTimeoutSecs (readWord 64) timeout
      userAgent := ← orElse s.userAgent readText agent }
  | _ => none

/-- The section of the log. -/
def readLogging (strict : Bool) : Section := fun j s => do
  match ← fields? strict ["level", "format"] j with
  | [level, format] =>
    return { s with
      logLevel := ← orElse s.logLevel readText level
      logFormat := ← orElse s.logFormat readText format }
  | _ => none

/-- The section of the consumers. -/
def readConsumers (strict : Bool) : Section := fun j s => do
  match ← fields? strict ["console", "webhooks"] j with
  | [console, webhooks] =>
    return { s with
      console := ← orElse s.console readBool console
      webhooks := ← orElse [] (readWebhooks strict) webhooks }
  | _ => none

/-- The sections, in order. -/
def sections (strict : Bool) : List (String × Section) :=
  [("scheduler", readScheduler strict), ("bus", readBus strict), ("http", readHttp strict),
    ("logging", readLogging strict), ("consumers", readConsumers strict)]

/-- The settings that a value denotes. -/
def ofJson? (strict : Bool) (j : Json) : Option Settings := do
  let values ← fields? strict ((sections strict).map (·.1)) j
  ((sections strict).zip values).foldlM (fun s entry => orElse s (entry.1.2 · s) entry.2) {}

end Settings
end StatusRelay
