/-
# What the program says of itself

An explanation tells what a command is for, how it is used, and what its flags mean. The flags
stand in a column beside their meaning, unless one of them is so long that a meaning would not fit
into a line of a hundred characters beside it. Then each meaning has a line of its own.
-/

import StatusRelay.CommandLine

namespace StatusRelay.CommandLine

/-- The name of the program. -/
def programName : String := "statuswatch"

/-- The version of the program. -/
def programVersion : String := "0.1.0"

/-- The line that answers a question for the version. -/
def versionText : String := programName ++ " " ++ programVersion ++ "\n"

/-! ### Meanings -/

/-- What a flag does. -/
def Flag.meaning : Flag → String
  | verbose => "Enable verbose logging"
  | logFormat => "Log format (text, json); overrides the configured format"
  | config => "TOML configuration file (defaults to STATUSWATCH_* environment variables)"
  | help => "Print help"
  | version => "Print version"
  | concurrency => "Maximum number of provider fetches in flight"
  | queueCapacity => "Bound each consumer queue to this many events"
  | noConsole => "Do not print events to stdout"
  | webhook => "Forward events to this webhook URL (repeatable)"
  | feedAddress => "Override the OpenAI status feed location"
  | printMetrics => "Print Prometheus metrics after shutdown"

namespace Topic

/-- What is explained, in a line. -/
def about : Topic → String
  | .at .program => "Poll third-party status pages and fan new incidents out to consumers"
  | .at .run => "Poll providers until interrupted with Ctrl-C"
  | .at .check => "Validate configuration and print the effective settings"
  | help => "Print this message or the help of the given subcommand(s)"

/-- How it is used. -/
def usage : Topic → String
  | .at .program => programName ++ " [OPTIONS] <COMMAND>"
  | .at .run => programName ++ " run [OPTIONS]"
  | .at .check => programName ++ " check [OPTIONS]"
  | help => programName ++ " help [COMMAND]..."

end Topic

/-! ### Layout -/

/-- How many characters a line has. -/
def lineWidth : Nat := 100

/-- Text in a column of a certain width. -/
def padded (width : Nat) (s : String) : String :=
  s ++ String.ofList (List.replicate (width - s.length) ' ')

/-- A flag with its letter, indented. -/
def flagText (f : Flag) : String :=
  (match f.letter? with
    | some c => String.ofList [' ', ' ', '-', c, ',', ' ']
    | none => "      ") ++ f.shown

/-- The width of the longest flag, indented. -/
def flagWidth (fs : List Flag) : Nat := (fs.map fun f => (flagText f).length).foldl max 0

/-- Whether a meaning does not fit beside the flags, which take up more than two fifths of the
line. -/
def isCrowded (fs : List Flag) : Bool :=
  let taken := flagWidth fs + 2
  lineWidth * 2 < taken * 5 && fs.any fun f => lineWidth < taken + f.meaning.length

/-- The lines of flags. -/
def flagLines (fs : List Flag) : String :=
  let line (f : Flag) : String :=
    if isCrowded fs then flagText f ++ "\n          " ++ f.meaning ++ "\n"
    else padded (flagWidth fs) (flagText f) ++ "  " ++ f.meaning ++ "\n"
  "".intercalate (fs.map line)

/-- The lines of the commands. -/
def commandLines : String :=
  let line (name : String) (t : Topic) : String := "  " ++ padded 5 name ++ "  " ++ t.about ++ "\n"
  "Commands:\n" ++ line "run" (.at .run) ++ line "check" (.at .check) ++ line "help" .help ++ "\n"

/-- The explanation of a topic. -/
def Topic.text (t : Topic) : String :=
  t.about ++ "\n\nUsage: " ++ t.usage ++ "\n\n" ++
    match t with
    | .at .program => commandLines ++ "Options:\n" ++ flagLines (Place.flags .program)
    | .at p => "Options:\n" ++ flagLines p.flags
    | .help => "Arguments:\n  [COMMAND]...  Print help for the subcommand(s)\n"

/-! ### Mistakes -/

/-- What is wrong with a command line. -/
def Fault.message : Fault → String
  | nothing | noCommand =>
    "'" ++ programName ++ "' requires a subcommand but one was not provided\n" ++
      "  [subcommands: run, check, help]"
  | unknownCommand name => "unrecognized subcommand '" ++ name ++ "'"
  | unexpected arg => "unexpected argument '" ++ arg ++ "' found"
  | needlessValue flag value =>
    "unexpected value '" ++ value ++ "' for '" ++ flag.shown ++ "' found; no more were expected"
  | missingValue flag => "a value is required for '" ++ flag.shown ++ "' but none was supplied"
  | badValue flag value => "invalid value '" ++ value ++ "' for '" ++ flag.shown ++ "'"
  | repeated flag => "the argument '" ++ flag.shown ++ "' cannot be used multiple times"

/-- What is printed of a mistake. One who gives no arguments is told what there is. -/
def Fault.text : Fault → String
  | nothing => Topic.text (.at .program)
  | f => "error: " ++ f.message ++ "\n\nFor more information, try '--help'.\n"

end StatusRelay.CommandLine
