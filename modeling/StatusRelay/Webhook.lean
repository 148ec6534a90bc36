/-
# Webhooks

An endpoint to which events are sent: its address, a token to identify us by, further headers, and
how long and how often it is tried. The pause before the first retry is given, and doubles with
every further one, up to the largest number of 64 bits.
-/

import StatusRelay.Duration
import StatusRelay.Text.Quoted
import StatusRelay.Url.Reader

namespace StatusRelay

/-- An endpoint for events. -/
structure Webhook where
  url : String
  token : Option String := none
  /-- Further headers, each name once. -/
  headers : List (String × String) := []
  timeoutSecs : Nat := 10
  /-- How often a request is repeated at most. -/
  maxRetries : Nat := 3
  /-- The pause before the first retry, in milliseconds. -/
  retryBaseDelayMs : Nat := 1000
  deriving DecidableEq, Repr, Inhabited

namespace Webhook

/-- The largest number of 64 bits. -/
def maxWord : Nat := Nat.pow 2 64 - 1

/-! ### Building -/

/-- Sets the token. -/
def withToken (w : Webhook) (token : String) : Webhook := { w with token := some token }

/-- Sets the value of a header. -/
def withHeader (w : Webhook) (name value : String) : Webhook :=
  { w with headers :=
      if w.headers.any fun h => h.1 == name then
        w.headers.map fun h => if h.1 == name then (name, value) else h
      else w.headers ++ [(name, value)] }

/-- Sets the time after which a request is given up. -/
def withTimeout (w : Webhook) (secs : Nat) : Webhook := { w with timeoutSecs := secs }

/-- Sets how often a request is repeated. -/
def withMaxRetries (w : Webhook) (n : Nat) : Webhook := { w with maxRetries := n }

/-- Sets the pause before the first retry: the lower 64 bits of its whole milliseconds. -/
def withRetryDelay (w : Webhook) (delay : Duration) : Webhook :=
  { w with retryBaseDelayMs := delay.millis % Nat.pow 2 64 }

/-! ### Validity -/

/-- Why an endpoint cannot be used. -/
inductive Fault where
  | noUrl
  | badUrl (fault : Url.Fault)
  | otherScheme
  | noTimeout
  deriving DecidableEq, Repr

/-- The wording of a fault. -/
def Fault.message : Fault → String
  | noUrl => "Webhook URL cannot be empty"
  | badUrl fault => "Invalid webhook URL: " ++ fault.message
  | otherScheme => "Webhook URL must start with http:// or https://"
  | noTimeout => "Timeout must be greater than 0"

/-- Checks an endpoint. The result is its address. -/
def check (w : Webhook) : Except Fault Url :=
  if w.url.isEmpty then .error .noUrl
  else match Url.read w.url.toList with
    | .error fault => .error (.badUrl fault)
    | .ok url =>
      if url.scheme ≠ "http" ∧ url.scheme ≠ "https" then .error .otherScheme
      else if w.timeoutSecs = 0 then .error .noTimeout
      else .ok url

/-! ### Retries -/

/-- A power of two as a number of 64 bits; the largest such number stands for what is larger. -/
def powerOfTwo (n : Nat) : Nat := if n < 64 then Nat.pow 2 n else maxWord

/-- The pause before a retry, counted from one, in milliseconds. -/
def retryDelay (w : Webhook) (attempt : Nat) : Nat :=
  min (w.retryBaseDelayMs * powerOfTwo (attempt - 1)) maxWord

/-- An endpoint as a developer sees it. -/
def describe (w : Webhook) : String :=
  "WebhookConsumer \x7b url: " ++ Text.quoted w.url ++ ", max_retries: " ++
    toString w.maxRetries ++ ", has_auth: " ++ toString w.token.isSome ++ " \x7d"

end Webhook
end StatusRelay
