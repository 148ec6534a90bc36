/-
# Reading a command line

Arguments are read from left to right, in one place until a command is named and in another after
it. An argument is one of these:

| argument | what it is |
| --- | --- |
| `--` | the end of the flags; no argument may follow |
| `--name`, `--name=value` | a flag by its name |
| `-xyz`, `-xvalue`, `-x=value` | flags by their letters; one that takes a value takes the rest |
| after a flag that waits for its value | the value |
| anything else | a command |

A value that stands in an argument of its own is looked at when the next flag comes, or at the end
of the place. So a mistake in it is not told if the program is asked for help in between, which can
happen where a command follows the value.
-/

import StatusRelay.CommandLine

namespace StatusRelay.CommandLine

/-- What has been read in one place. -/
structure Given where
  /-- The flags with their values, in order. -/
  settled : List (Flag × String) := []
  /-- The last flag, if its value has not been looked at; the value itself may be still to come. -/
  pending : Option (Flag × Option String) := none
  deriving DecidableEq, Repr, Inhabited

namespace Given

/-- Adds a flag with its value. -/
def record (g : Given) (f : Flag) (value : String) : Except Stop Given :=
  if !f.isRepeatable && g.settled.any fun s => s.1 == f then .error (.fault (.repeated f))
  else if f.accepts value then .ok { g with settled := g.settled ++ [(f, value)] }
  else .error (.fault (.badValue f value))

/-- Looks at the value that waits. -/
def resolve (g : Given) : Except Stop Given :=
  match g.pending with
  | none => .ok g
  | some (f, none) => .error (.fault (.missingValue f))
  | some (f, some value) => { g with pending := none }.record f value

/-- Whether a flag waits for its value. -/
def isWaiting (g : Given) : Bool :=
  match g.pending with
  | some (_, none) => true
  | _ => false

/-- Takes an argument that is no flag as the value that is waited for. -/
def supply (g : Given) (value : String) : Given :=
  { g with pending := g.pending.map fun p => (p.1, some value) }

/-- The last value of a flag. -/
def value? (g : Given) (f : Flag) : Option String :=
  (g.settled.reverse.find? fun s => s.1 == f).map (·.2)

/-- All values of a flag. -/
def values (g : Given) (f : Flag) : List String :=
  (g.settled.filter fun s => s.1 == f).map (·.2)

/-- Whether a flag was given. -/
def has (g : Given) (f : Flag) : Bool := (g.value? f).isSome

/-! ### Flags -/

/-- A flag without a value. -/
def switch (g : Given) (p : Place) (f : Flag) : Except Stop Given := do
  let g ← g.resolve
  match f with
  | .help => .error (.help (.at p))
  | .version => .error .version
  | _ => g.record f ""

/-- A flag whose value is in the same argument. -/
def assign (g : Given) (f : Flag) (value : String) : Except Stop Given := do
  let g ← g.resolve
  g.record f value

/-- A flag whose value is to come. -/
def await (g : Given) (f : Flag) : Except Stop Given := do
  let g ← g.resolve
  return { g with pending := some (f, none) }

/-- A flag by its name, perhaps with a value. -/
def long (g : Given) (p : Place) (name : String) (value : Option String) : Except Stop Given :=
  match p.flag? name, value with
  | none, _ => .error (.fault (.unexpected ("--" ++ name)))
  | some f, some v =>
    if f.takesValue then g.assign f v else .error (.fault (.needlessValue f v))
  | some f, none => if f.takesValue then g.await f else g.switch p f

/-- Flags by their letters. -/
def short (g : Given) (p : Place) : List Char → Except Stop Given
  | [] => .ok g
  | c :: cs =>
    match p.flagOf? c with
    | none => .error (.fault (.unexpected (String.ofList ['-', c])))
    | some f =>
      if f.takesValue then
        match cs with
        | [] => g.await f
        | '=' :: value => g.assign f (String.ofList value)
        | value => g.assign f (String.ofList value)
      else do
        let g ← g.switch p f
        g.short p cs

/-- An argument that begins with a hyphen and is not one or two hyphens. -/
def flag (g : Given) (p : Place) : List Char → Except Stop Given
  | '-' :: '-' :: cs =>
    let name := cs.takeWhile (· != '=')
    let value := match cs.dropWhile (· != '=') with
      | [] => none
      | _ :: value => some (String.ofList value)
    g.long p (String.ofList name) value
  | '-' :: cs => g.short p cs
  | cs => .error (.fault (.unexpected (String.ofList cs)))

end Given

/-- What an argument looks like. -/
inductive Shape where
  /-- The end of the flags. -/
  | finish
  | flag
  | word
  deriving DecidableEq, Repr

/-- The shape of an argument. A hyphen alone is a word. -/
def shape : List Char → Shape
  | ['-', '-'] => .finish
  | '-' :: _ :: _ => .flag
  | _ => .word

/-! ### Places -/

/-- Arguments after the end of the flags, where there may be none. -/
def readRest (g : Given) : List String → Except Stop Given
  | [] => g.resolve
  | arg :: _ => .error (.fault (.unexpected arg))

/-- Arguments after a command. -/
def readAfter (p : Place) (g : Given) : List String → Except Stop Given
  | [] => g.resolve
  | arg :: args =>
    match shape arg.toList with
    | .finish => readRest g args
    | .flag => do readAfter p (← g.flag p arg.toList) args
    | .word =>
      if g.isWaiting then readAfter p (g.supply arg) args
      else .error (.fault (.unexpected arg))

/-- Arguments after `help`. -/
def readHelp : List String → Stop
  | [] => .help (.at .program)
  | ["help"] => .help .help
  | name :: rest =>
    match Place.command? name, rest with
    | some p, [] => .help (.at p)
    | some _, other :: _ => .fault (.unknownCommand other)
    | none, _ => .fault (.unknownCommand name)

/-- Arguments before the command: what is given there, the place after the command, and what is
given in that place. -/
def readBefore (g : Given) : List String → Except Stop (Given × Place × Given)
  | [] => do
    let _ ← g.resolve
    .error (.fault .noCommand)
  | arg :: args =>
    match shape arg.toList with
    | .finish => do
      let _ ← readRest g args
      .error (.fault .noCommand)
    | .flag => do readBefore (← g.flag .program arg.toList) args
    | .word =>
      if g.isWaiting then readBefore (g.supply arg) args
      else if arg = "help" then .error (readHelp args)
      else match Place.command? arg with
        | none => .error (.fault (.unknownCommand arg))
        | some p => do
          let inner ← readAfter p {} args
          let outer ← g.resolve
          return (outer, p, inner)

/-! ### The command line -/

/-- What `run` is told by its flags. -/
def RunOptions.ofGiven (g : Given) : RunOptions :=
  let number (f : Flag) : Option Nat := (g.value? f).bind fun v => Settings.readNumber? v.toList
  { concurrency := number .concurrency
    queueCapacity := number .queueCapacity
    noConsole := g.has .noConsole
    webhooks := g.values .webhook
    feedAddress := g.value? .feedAddress
    printMetrics := g.has .printMetrics }

/-- Reads a command line. A flag that stands on both sides of the command counts where it stands
after it. -/
def read (args : List String) : Except Stop Invocation :=
  if args.isEmpty then .error (.fault .nothing)
  else do
    let (outer, p, inner) ← readBefore {} args
    return {
      verbose := outer.has .verbose || inner.has .verbose
      logFormat := inner.value? .logFormat <|> outer.value? .logFormat
      config := inner.value? .config <|> outer.value? .config
      command := if p = .run then .run (.ofGiven inner) else .check }

end StatusRelay.CommandLine
