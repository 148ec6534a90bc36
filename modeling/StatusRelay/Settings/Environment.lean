/-
# Settings from the environment

Eight variables are looked at. One that is not text, or does not have the form that its setting
asks for, counts as not set. A number is written in decimal digits, perhaps after a plus sign, and
has 64 bits.
-/

import StatusRelay.Settings
import StatusRelay.Text.Blank

namespace StatusRelay.Settings

/-- The number that a text denotes. -/
def readNumber? (cs : List Char) : Option Nat :=
  let digits := match cs with
    | '+' :: rest => rest
    | _ => cs
  if digits.isEmpty then none
  else (Url.number? 10 digits).bind fun n => if n < Nat.pow 2 64 then some n else none

/-- The truth value that a text denotes. -/
def readFlag? (cs : List Char) : Option Bool :=
  if cs = "true".toList then some true
  else if cs = "false".toList then some false
  else none

/-- The names of the variables. -/
def environmentNames : List String :=
  ["CONCURRENCY_LIMIT", "QUEUE_CAPACITY", "REQUEST_TIMEOUT", "USER_AGENT", "LOG_LEVEL",
    "LOG_FORMAT", "CONSOLE", "WEBHOOK_URL"].map ("STATUSWATCH_" ++ ·)

/-- The settings that an environment makes, given the bytes of each variable that is set. -/
def ofEnvironment (lookup : String → Option (List UInt8)) : Settings :=
  let text (name : String) : Option (List Char) :=
    (lookup ("STATUSWATCH_" ++ name)).bind Text.decode?
  let number (name : String) : Option Nat := (text name).bind readNumber?
  let words (name : String) (otherwise : String) : String :=
    ((text name).map String.ofList).getD otherwise
  let standard : Settings := {}
  { concurrencyLimit := (number "CONCURRENCY_LIMIT").getD standard.concurrencyLimit
    queueCapacity := number "QUEUE_CAPACITY"
    requestTimeoutSecs := (number "REQUEST_TIMEOUT").getD standard.requestTimeoutSecs
    userAgent := words "USER_AGENT" standard.userAgent
    logLevel := words "LOG_LEVEL" standard.logLevel
    logFormat := words "LOG_FORMAT" standard.logFormat
    console := ((text "CONSOLE").bind readFlag?).getD standard.console
    webhooks :=
      match Text.trim ((text "WEBHOOK_URL").getD []) with
      | [] => []
      | url => [{ url := String.ofList url }] }

end StatusRelay.Settings
