/-
# Log filters

A filter is a list of directives with commas between them; empty ones are left out. A directive
names what it is about, how much of that is logged, or both.

| directive | meaning |
| --- | --- |
| `info` | a level for everything |
| `target` | everything about a target |
| `target=info`, `target=` | a level for a target |
| `target[span]=info` | a level for what happens in a span of a target |
| `[span{field=value}]=info` | the same for spans with a field |

A level is `off`, `error`, `warn`, `info`, `debug` or `trace` in any letter case, or a number from 0
to 5, or nothing. A first word that is not a level is a target, so only a level after `=` can be
wrong.

Blanks around a directive are skipped, but its level is cut out by its distance from the beginning
of the directive without them. With blanks in front the cut is too early, and finds no level. Blanks
after a level belong to it, so that it is none.
-/

import StatusRelay.Settings.Environment
import StatusRelay.Text.Utf8

namespace StatusRelay
namespace LogFilter

/-- Why a text is not a filter. -/
inductive Fault where
  | malformed
  | badLevel
  deriving DecidableEq, Repr, Inhabited

/-- The wording of the causes of a fault, each behind the one before. -/
def Fault.causes : Fault → List String
  | malformed => ["invalid filter directive"]
  | badLevel =>
    let text := "error parsing level filter: expected one of \"off\", \"error\", \"warn\", " ++
      "\"info\", \"debug\", \"trace\", or a number 0-5"
    [text, text]

/-! ### Levels -/

/-- The names of the levels. -/
def levelNames : List String := ["off", "error", "warn", "info", "debug", "trace"]

/-- Whether a text is a level. -/
def isLevel (cs : List Char) : Bool :=
  match Settings.readNumber? cs with
  | some n => n ≤ 5
  | none => cs.isEmpty || levelNames.contains (String.ofList (cs.map Char.toLower))

/-! ### Directives -/

/-- What is read next in a directive. -/
inductive State where
  | start
  /-- A level or a target. -/
  | word
  | span
  /-- A field, of which there is something or nothing so far. -/
  | field (isEmpty : Bool)
  /-- The end of the fields. -/
  | fields
  /-- The end of the target. -/
  | target
  /-- A level, with the number of bytes before it. -/
  | level (start : Nat)
  deriving DecidableEq, Repr, Inhabited

/-- Whether a directive can begin with a character. What is beyond ASCII counts as a letter. -/
def canBegin (c : Char) : Bool := ['-', ':', '_'].contains c || c.isAlphanum || 128 ≤ c.toNat

/-- The state after a character, with so many bytes up to the end of it. -/
def step (position : Nat) : State → Char → Option State
  | .start, c => if c == '[' then some .span else if canBegin c then some .word else none
  | .word, c =>
    some (if c == '=' then .level position else if c == '[' then .span else .word)
  | .span, c =>
    some (if c == ']' then .target else if c == '\x7b' then .field true else .span)
  | .field isEmpty, c =>
    if c == '\x7d' then if isEmpty then none else some .fields else some (.field false)
  | .fields, c => if c == ']' then some .target else none
  | .target, c => if c == '=' then some (.level position) else none
  | .level start, _ => some (.level start)

/-- The state at the end of a text, of which so many bytes have been read. -/
def scan (position : Nat) (s : State) : List Char → Option State
  | [] => some s
  | c :: cs =>
    let position := position + (Text.encode [c]).length
    (step position s c).bind fun s => scan position s cs

/-- What is wrong with a directive. -/
def directiveFault? (cs : List Char) : Option Fault :=
  match scan 0 .start (Text.trim cs) with
  | some .word | some .target => none
  | some (.level start) =>
    match Text.decode? ((Text.encode cs).drop start) with
    | some level => if isLevel level then none else some .badLevel
    | none => some .badLevel
  | _ => some .malformed

/-- What is wrong with a filter: the first fault in it. -/
def fault? (text : List Char) : Option Fault :=
  ((text.splitOn ',').filter fun d => !d.isEmpty).findSome? directiveFault?

/-! ### The filter of the program -/

/-- The filter for a level of the program's own messages, or for all there is to tell. -/
def ofLevel (level : String) (verbose : Bool) : String :=
  if verbose then "statuswatch=debug,info" else "statuswatch=" ++ level ++ ",warn"

end LogFilter
end StatusRelay
