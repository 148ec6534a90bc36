/-
# Settings as TOML

The settings are written as one table for each section, in order, with a blank line between them.
Each webhook has a table of its own after the section of the consumers, and its headers another.
A document cannot hold an integer above `2 ^ 63 - 1`, so settings with such a number cannot be
written.

What is written reads back to the same settings. Reading takes any document whose tables have the
right shape.
-/

import StatusRelay.Settings.Json
import StatusRelay.Toml.Text

namespace StatusRelay

/-- The largest integer of a document. -/
def Toml.maxInt : Nat := Nat.pow 2 63 - 1

namespace Settings

/-! ### Writing -/

/-- The line of an entry. -/
def line (name : String) (value : List Char) : List Char :=
  name.toList ++ " = ".toList ++ value ++ ['\n']

/-- The line of a number. -/
def numberLine (name : String) (n : Nat) : List Char := line name (toString n).toList

/-- The line of a text. -/
def textLine (name : String) (s : String) : List Char := line name (Toml.writeString s.toList)

/-- The lines of a webhook under its header, and its headers under theirs. -/
def webhookText (w : Webhook) : List Char :=
  "\n[[consumers.webhooks]]\n".toList ++ textLine "url" w.url ++
    (w.token.map (textLine "auth_token")).getD [] ++
    numberLine "timeout_secs" w.timeoutSecs ++ numberLine "max_retries" w.maxRetries ++
    numberLine "retry_base_delay_ms" w.retryBaseDelayMs ++
    "\n[consumers.webhooks.headers]\n".toList ++
    w.headers.flatMap fun h =>
      Toml.writeName h.1.toList ++ " = ".toList ++ Toml.writeString h.2.toList ++ ['\n']

/-- The text of the settings. -/
def text (s : Settings) : List Char :=
  "[scheduler]\n".toList ++ numberLine "concurrency_limit" s.concurrencyLimit ++
    "\n[bus]\n".toList ++ (s.queueCapacity.map (numberLine "queue_capacity")).getD [] ++
    "\n[http]\n".toList ++ numberLine "request_timeout_secs" s.requestTimeoutSecs ++
    textLine "user_agent" s.userAgent ++
    "\n[logging]\n".toList ++ textLine "level" s.logLevel ++ textLine "format" s.logFormat ++
    "\n[consumers]\n".toList ++ line "console" (toString s.console).toList ++
    if s.webhooks.isEmpty then line "webhooks" ['[', ']'] else s.webhooks.flatMap webhookText

/-- The numbers among the settings. -/
def numbers (s : Settings) : List Nat :=
  [s.concurrencyLimit, s.requestTimeoutSecs] ++ s.queueCapacity.toList ++
    s.webhooks.flatMap fun w => [w.timeoutSecs, w.maxRetries, w.retryBaseDelayMs]

/-- The document of the settings, unless a number is too large for one. -/
def toToml? (s : Settings) : Option String :=
  if s.numbers.all fun n => n ≤ Toml.maxInt then some (String.ofList s.text) else none

/-! ### Reading -/

/-- The settings that a document denotes. -/
def ofToml? (text : List Char) : Option Settings :=
  (Toml.read? text).bind fun t => ofJson? false t.toJson

/-- Why a file holds no settings. -/
inductive FileFault where
  /-- There is no file. -/
  | missing
  /-- What is in the file is not text. -/
  | notText
  /-- The text is not a document of settings. -/
  | malformed
  deriving DecidableEq, Repr, Inhabited

namespace FileFault

/-- The wording of a fault, for a file with a path. -/
def message (path : String) : FileFault → String
  | missing | notText => "Failed to read config file: " ++ path
  | malformed => "Failed to parse TOML config file: " ++ path

/-- The wording of what is behind a fault. -/
def cause : FileFault → String
  | missing => "No such file or directory (os error 2)"
  | notText => "stream did not contain valid UTF-8"
  | malformed => "TOML parse error"

end FileFault

/-- The settings in a file, given by its bytes if there is one. -/
def ofFile (content : Option (List UInt8)) : Except FileFault Settings :=
  match content with
  | none => .error .missing
  | some bytes =>
    match Text.decode? bytes with
    | none => .error .notText
    | some text =>
      match ofToml? text with
      | some s => .ok s
      | none => .error .malformed

end Settings
end StatusRelay
