/-
# The command line

The program has two commands, each with flags of its own, and flags that can stand on either side
of the command. `help` and `version` are asked for like commands, and so is a mistake told: what
comes first decides.

| flag | value | where |
| --- | --- | --- |
| `-v`, `--verbose` | | anywhere |
| `--log-format` | text | anywhere |
| `-c`, `--config` | path | anywhere |
| `-h`, `--help` | | anywhere |
| `-V`, `--version` | | before the command |
| `--concurrency`, `--queue-capacity` | number | after `run` |
| `--webhook` | address, may be repeated | after `run` |
| `--openai-feed-url` | address | after `run` |
| `--no-console`, `--print-metrics` | | after `run` |
-/

import StatusRelay.Settings.Environment

namespace StatusRelay
namespace CommandLine

/-! ### Flags -/

/-- What can be given besides a command. -/
inductive Flag where
  | verbose | logFormat | config
  | help | version
  | concurrency | queueCapacity | noConsole | webhook | feedAddress | printMetrics
  deriving DecidableEq, Repr, Inhabited

namespace Flag

/-- The name, which follows two hyphens. -/
def name : Flag → String
  | verbose => "verbose"
  | logFormat => "log-format"
  | config => "config"
  | help => "help"
  | version => "version"
  | concurrency => "concurrency"
  | queueCapacity => "queue-capacity"
  | noConsole => "no-console"
  | webhook => "webhook"
  | feedAddress => "openai-feed-url"
  | printMetrics => "print-metrics"

/-- The letter, which follows one hyphen. -/
def letter? : Flag → Option Char
  | verbose => some 'v'
  | config => some 'c'
  | help => some 'h'
  | version => some 'V'
  | _ => none

/-- Whether a value follows. -/
def takesValue : Flag → Bool
  | logFormat | config | concurrency | queueCapacity | webhook | feedAddress => true
  | _ => false

/-- Whether it may be given several times in one place. -/
def isRepeatable : Flag → Bool
  | webhook => true
  | _ => false

/-- Whether the flag can have a value. A number has 64 bits, and a path is not empty. -/
def accepts (f : Flag) (value : String) : Bool :=
  match f with
  | concurrency | queueCapacity => (Settings.readNumber? value.toList).isSome
  | config => !value.isEmpty
  | _ => true

/-- What the value is called: the name in capitals, between brackets. -/
def placeholder : Flag → String
  | webhook => "<WEBHOOKS>"
  | f =>
    let capital (c : Char) : Char := if c == '-' then '_' else c.toUpper
    "<" ++ String.ofList (f.name.toList.map capital) ++ ">"

/-- The flag in writing, with its value. -/
def shown (f : Flag) : String :=
  "--" ++ f.name ++ if f.takesValue then " " ++ f.placeholder else ""

end Flag

/-! ### Commands -/

/-- Where a flag stands: before the command, or after it. -/
inductive Place where
  | program | run | check
  deriving DecidableEq, Repr, Inhabited

namespace Place

/-- The flags that can stand in a place, in the order in which they are explained. -/
def flags : Place → List Flag
  | program => [.verbose, .logFormat, .config, .help, .version]
  | run => [.concurrency, .verbose, .logFormat, .queueCapacity, .config, .noConsole, .webhook,
      .feedAddress, .printMetrics, .help]
  | check => [.verbose, .logFormat, .config, .help]

/-- The flag with a name. -/
def flag? (p : Place) (name : String) : Option Flag := p.flags.find? fun f => f.name == name

/-- The flag with a letter. -/
def flagOf? (p : Place) (letter : Char) : Option Flag :=
  p.flags.find? fun f => f.letter? == some letter

/-- The command with a name, as the place after it. -/
def command? : String → Option Place
  | "run" => some run
  | "check" => some check
  | _ => none

end Place

/-- What `run` is told. -/
structure RunOptions where
  concurrency : Option Nat := none
  queueCapacity : Option Nat := none
  noConsole : Bool := false
  webhooks : List String := []
  /-- Where the feed is, if not at its public address. -/
  feedAddress : Option String := none
  printMetrics : Bool := false
  deriving DecidableEq, Repr, Inhabited

namespace RunOptions

/-- The settings of a run, in which the command line has the last word. -/
def apply (o : RunOptions) (s : Settings) : Settings :=
  { s with
    concurrencyLimit := o.concurrency.getD s.concurrencyLimit
    queueCapacity := o.queueCapacity <|> s.queueCapacity
    console := s.console && !o.noConsole
    webhooks := s.webhooks ++ o.webhooks.map fun url => { url := url } }

end RunOptions

/-- What the program is to do. -/
inductive Command where
  /-- To relay events until it is interrupted. -/
  | run (o : RunOptions)
  /-- To print the settings. -/
  | check
  deriving DecidableEq, Repr, Inhabited

/-- A command line. -/
structure Invocation where
  verbose : Bool := false
  logFormat : Option String := none
  /-- The path of the file that holds the settings. -/
  config : Option String := none
  command : Command
  deriving DecidableEq, Repr, Inhabited

/-! ### Other ends -/

/-- A mistake on the command line. -/
inductive Fault where
  /-- There is nothing on it. -/
  | nothing
  | noCommand
  | unknownCommand (name : String)
  | unexpected (arg : String)
  /-- A flag that takes no value has one. -/
  | needlessValue (flag : Flag) (value : String)
  | missingValue (flag : Flag)
  | badValue (flag : Flag) (value : String)
  | repeated (flag : Flag)
  deriving DecidableEq, Repr, Inhabited

/-- What can be explained. -/
inductive Topic where
  | at (place : Place)
  /-- The command that explains. -/
  | help
  deriving DecidableEq, Repr, Inhabited

/-- Why a command line names no command to be done. -/
inductive Stop where
  | fault (f : Fault)
  | help (topic : Topic)
  | version
  deriving DecidableEq, Repr, Inhabited

end CommandLine
end StatusRelay
