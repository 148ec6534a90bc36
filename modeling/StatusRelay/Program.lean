/-
# The program

What the program does with a command line, its surroundings and the replies of others, up to what
it prints and the code it ends with.

| end | code | printed |
| --- | --- | --- |
| done | 0 | what was asked for |
| failed | 1 | the failure and what is behind it |
| not understood | 2 | the mistake on the command line |
| crashed | 101 | why |

The settings come from a file if one is named, and from the environment otherwise. The log filter
is looked at before the settings are checked.
-/

import StatusRelay.CommandLine.Help
import StatusRelay.CommandLine.Reader
import StatusRelay.LogFilter
import StatusRelay.Metrics.Text
import StatusRelay.Monitor
import StatusRelay.Settings.Toml
import StatusRelay.StatusPage.Provider

namespace StatusRelay
namespace Program

open CommandLine (Invocation RunOptions)

/-! ### Ends -/

/-- How the program ends. -/
structure Ending where
  code : Nat
  /-- What is printed. -/
  out : String := ""
  /-- What is printed of a failure. -/
  err : String := ""
  deriving DecidableEq, Repr, Inhabited

/-- A text whose further lines are indented. -/
def hang (indent text : String) : String := ("\n" ++ indent).intercalate (text.splitOn "\n")

/-- The lines of the causes of a failure. A single cause has no number. -/
def causeText : List String → String
  | [cause] => "\n    " ++ hang "    " cause
  | causes => "".intercalate (causes.zipIdx.map fun (cause, n) =>
      let number := toString n
      "\n" ++ String.ofList (List.replicate (5 - number.length) ' ') ++ number ++ ": " ++
        hang "       " cause)

/-- The end in a failure, told with its causes, each behind the one before. -/
def failed (what : String) (causes : List String) : Ending where
  code := 1
  err := "Error: " ++ what ++
    (if causes.isEmpty then "" else "\n\nCaused by:" ++ causeText causes) ++ "\n"

/-- The end in a crash. -/
def crashed (why : String) : Ending := { code := 101, err := why ++ "\n" }

/-- The end when the command line names no command to be done. -/
def stopped : CommandLine.Stop → Ending
  | .fault f => { code := 2, err := f.text }
  | .help topic => { code := 0, out := topic.text }
  | .version => { code := 0, out := CommandLine.versionText }

/-! ### Settings -/

/-- What the program finds when it is started. -/
structure Surroundings where
  /-- The bytes of a variable of the environment, if it is set. -/
  lookup : String → Option (List UInt8)
  /-- The bytes of a file, if there is one. -/
  file : String → Option (List UInt8)

/-- The settings, before they are checked. -/
def loadSettings (i : Invocation) (s : Surroundings) : Except Ending Settings :=
  let loaded : Except Ending Settings :=
    match i.config with
    | none => .ok (.ofEnvironment s.lookup)
    | some path =>
      match Settings.ofFile (s.file path) with
      | .ok settings => .ok settings
      | .error fault => .error (failed (fault.message path) [fault.cause])
  loaded.map fun settings =>
    { settings with logFormat := i.logFormat.getD settings.logFormat }

/-- Looks at the log filter. -/
def checkFilter (i : Invocation) (settings : Settings) : Except Ending Unit :=
  let filter := LogFilter.ofLevel settings.logLevel i.verbose
  match LogFilter.fault? filter.toList with
  | none => .ok ()
  | some fault => .error (failed ("Invalid log filter: " ++ filter) fault.causes)

/-- Checks the settings. -/
def checkSettings (settings : Settings) : Except Ending Unit :=
  match settings.check with
  | .ok _ => .ok ()
  | .error fault => .error (failed "Invalid configuration" [fault.message])

/-! ### The check -/

/-- Prints the settings. -/
def check (settings : Settings) : Except Ending Ending := do
  checkSettings settings
  match settings.toToml? with
  | some text => return { code := 0, out := "Configuration OK\n\n" ++ text ++ "\n" }
  | none => .error (failed "Failed to render configuration" ["out-of-range value for u64 type"])

/-! ### The run -/

/-- What others do during a run. -/
structure Others where
  /-- The reply of the status page to a poll, counted from zero. -/
  page : Nat → Url → Http.Request → Http.Reply
  /-- The reply of a webhook to an attempt to send an event, each counted from zero. -/
  webhook : Nat → Nat → Nat → Http.Reply
  /-- The time of each poll. -/
  clock : Nat → Timestamp

/-- The status page that is polled. -/
def page (o : RunOptions) : StatusPage :=
  { address := o.feedAddress.getD StatusPage.publicAddress }

/-- How the status page is polled. -/
def pageOutside (settings : Settings) (others : Others) : StatusPage.Outside :=
  { agent := some settings.userAgent, answer := others.page, clock := others.clock }

/-- The monitor of a run. -/
def monitor (settings : Settings) (o : RunOptions) (others : Others) : Except Ending Monitor := do
  checkSettings settings
  if !settings.userAgent.toList.all Http.isValueChar then
    .error (failed "Failed to build HTTP client"
      ["builder error", "failed to parse header value"])
  else
    let provider := (page o).provider (pageOutside settings others)
    let m ← match (Monitor.mk settings .empty []).register provider with
      | .ok m => .ok m
      | .error f => .error (failed f.message [])
    match m.addConfigured others.webhook with
    | (none, m) => return m
    | (some f, _) => .error (failed "Failed to set up consumers" [f.message])

/-- The world at the beginning of a run. -/
def begin (settings : Settings) (o : RunOptions) (others : Others) : Except Ending World := do
  let m ← monitor settings o others
  match m.open? with
  | .ok w => return w
  | .error (.failed f) => .error (failed f.message f.cause?.toList)
  | .error .queueTooLarge => .error (crashed Bus.capacityMessage)

/-- The report of a run in lines. -/
def reportLines (r : Monitor.Report) : List String :=
  ["", "statuswatch stopped",
    "  Events published: " ++ toString r.eventsPublished,
    "  Deliveries:       " ++ toString r.deliveries,
    "  Unique events:    " ++ toString r.uniqueEvents] ++
  (r.workers.map fun w =>
    "  [" ++ w.provider ++ "] cycles=" ++ toString w.tally.cycles ++
      " fetched=" ++ toString w.tally.fetched ++ " published=" ++ toString w.tally.published ++
      " duplicates=" ++ toString w.tally.duplicates ++ " faults=" ++ toString w.tally.faults) ++
  r.consumers.map fun c =>
    "  <" ++ c.consumer ++ "> received=" ++ toString c.tally.received ++
      " processed=" ++ toString c.tally.processed ++ " failures=" ++ toString c.tally.failures

/-- The metrics of a run. -/
def metrics (w : World) : Metrics := (Metrics.setUp {}).2.observeAll w.log

/-- The end of a run, given the world at its end. -/
def finish (o : RunOptions) (w : World) : Ending where
  code := 0
  out := Monitor.printed w ++ Metrics.joined (reportLines (Monitor.report w)) ++
    if o.printMetrics then (metrics w).write ++ "\n" else ""

/-! ### Commands -/

/-- What is left to be done once a command line has been understood and the settings have been
loaded. -/
inductive Plan where
  /-- Nothing: the program is at its end. -/
  | over (ending : Ending)
  /-- Events are to be relayed. -/
  | relay (settings : Settings) (o : RunOptions)

/-- Starts the program, up to where others have a part in it. -/
def start (args : List String) (s : Surroundings) : Plan :=
  let attempt : Except Ending Plan :=
    match CommandLine.read args with
    | .error stop => .error (stopped stop)
    | .ok i => do
      let settings ← loadSettings i s
      checkFilter i settings
      match i.command with
      | .check => return .over (← check settings)
      | .run o => return .relay (o.apply settings) o
  match attempt with
  | .ok plan => plan
  | .error ending => .over ending

/-- The end of the program if it is stopped at a moment of a run. -/
def run (args : List String) (s : Surroundings) (others : Others) (moment : Option Nat) : Ending :=
  match start args s with
  | .over ending => ending
  | .relay settings o =>
    match begin settings o others with
    | .error ending => ending
    | .ok w => finish o (Monitor.close w moment)

end Program
end StatusRelay
