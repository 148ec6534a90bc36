/-
# Permits

A fixed number of permits, each held by one task at a time. A task that finds none free waits in
line, and a permit that comes back goes straight to the first in line: a permit is free only while
nobody waits.

| operation | permit free | none free |
| --- | --- | --- |
| `take?` | taken | refused |
| `ask` | taken | the task joins the line |
| `release` | | first in line has it, or it is free |
| `leave` | | out of the line, or the permit given is passed on |

Withdrawing the permits sends everybody in line away. Permits that are still held come back as
before.
-/

namespace StatusRelay

/-- The permits, seen from the counter. -/
structure Permits where
  /-- Permits that nobody holds. -/
  free : Nat
  /-- Tasks that wait for a permit, in the order in which they asked. -/
  line : List Nat
  /-- Tasks that have been given a permit while they waited, and have not collected it. -/
  given : List Nat
  /-- Whether the permits have been withdrawn. -/
  closed : Bool
  deriving DecidableEq, Repr, Inhabited

namespace Permits

/-- So many permits, all free. -/
def new (count : Nat) : Permits := ⟨count, [], [], false⟩

/-- The largest number of permits that there can be. -/
def maxCount : Nat := 2305843009213693951

/-- Takes a permit if one is free. -/
def take? (p : Permits) : Option Permits :=
  if p.closed || p.free == 0 then none else some { p with free := p.free - 1 }

/-- Puts a task at the end of the line. -/
def join (p : Permits) (task : Nat) : Permits := { p with line := p.line ++ [task] }

/-- Gives a permit back. The result holds the task that it went to. -/
def release (p : Permits) : Permits × Option Nat :=
  match p.line with
  | [] => ({ p with free := p.free + 1 }, none)
  | task :: rest => ({ p with line := rest, given := p.given ++ [task] }, some task)

/-- Collects the permit that a task has been given while it waited. -/
def collect? (p : Permits) (task : Nat) : Option Permits :=
  if p.given.contains task then some { p with given := p.given.erase task } else none

/-- A waiting task gives up. If it has been given a permit, that is passed on; the result holds the
task that it went to. -/
def leave (p : Permits) (task : Nat) : Permits × Option Nat :=
  match p.collect? task with
  | some p => p.release
  | none => ({ p with line := p.line.erase task }, none)

/-- Withdraws the permits. The result holds the tasks that waited. -/
def close (p : Permits) : Permits × List Nat :=
  ({ p with line := [], closed := true }, p.line)

end Permits
end StatusRelay
