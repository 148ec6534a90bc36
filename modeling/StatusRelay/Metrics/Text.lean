/-
# The text of the metrics

One family after another in the order of their names, each with its help, its type and its values.
A family with labels and no value is left out.

```
# HELP name what it says of itself
# TYPE name counter
name{label="value"} 3
```

A histogram has a line for every bound, which counts the durations that do not exceed it, a line
for all of them, their sum and their number. In the value of a label a backslash, a quotation mark
and a line break are escaped.
-/

import StatusRelay.Metrics

namespace StatusRelay.Metrics

/-- The value of a label between quotation marks. -/
def escape (s : String) : String :=
  s.toList.foldl (fun text c =>
    match c with
    | '\\' => text ++ "\\\\"
    | '"' => text ++ "\\\""
    | '\n' => text ++ "\\n"
    | c => text.push c) ""

/-- Labels in writing. -/
def labels (ls : List (String × String)) : String :=
  "\x7b" ++ ",".intercalate (ls.map fun (l, v) => l ++ "=\"" ++ escape v ++ "\"") ++ "\x7d"

/-- The lines of a family. -/
def familyText (name help kind : String) (lines : List String) : List String :=
  ("# HELP " ++ name ++ " " ++ help) :: ("# TYPE " ++ name ++ " " ++ kind) :: lines

/-- The lines of counters under a label. -/
def counterLines (name label : String) (s : Series Counter) : List String :=
  s.sort.map fun (value, c) => name ++ labels [(label, value)] ++ " " ++ c.shown.write

/-- The lines of a histogram. -/
def histogramLines (name provider : String) (h : Histogram) : List String :=
  let own := ("provider", provider)
  let bucket (bound : String) (n : Nat) : String :=
    name ++ "_bucket" ++ labels [own, ("le", bound)] ++ " " ++ toString n
  (Histogram.bounds.zip h.cumulative).map (fun (ms, n) => bucket (Histogram.seconds ms).write n) ++
    [bucket "+Inf" h.count,
      name ++ "_sum" ++ labels [own] ++ " " ++ h.sum.write,
      name ++ "_count" ++ labels [own] ++ " " ++ toString h.count]

/-- The values of a family, in lines. -/
def values (m : Metrics) (f : Family) : List String :=
  match f with
  | .fetchDuration =>
    (m.fetchDuration.sort.map fun (p, h) => histogramLines f.name p h).flatten
  | .fetchFaults => counterLines f.name "provider" m.fetchFaults
  | .inFlight => [f.name ++ " " ++ toString m.inFlight]
  | .eventsNew => counterLines f.name "provider" m.eventsNew
  | .eventsDuplicate => counterLines f.name "provider" m.eventsDuplicate
  | .eventsPublished => counterLines f.name "provider" m.eventsPublished
  | .busDeliveries => [f.name ++ " " ++ m.busDeliveries.shown.write]
  | .consumerProcessed => counterLines f.name "consumer" m.consumerProcessed
  | .consumerFailures => counterLines f.name "consumer" m.consumerFailures

/-- The type of a family in writing. -/
def kind : Family → String
  | .fetchDuration => "histogram"
  | .inFlight => "gauge"
  | _ => "counter"

/-- Every family that has a value, by name. -/
def sections (m : Metrics) : List (String × List String) :=
  let own := m.registered.filterMap fun f =>
    match m.values f with
    | [] => none
    | lines => some (f.name, familyText f.name f.help (kind f) lines)
  let foreign := m.foreign.map fun name => (name, familyText name "taken" "counter" [name ++ " 0"])
  (own ++ foreign).mergeSort fun a b => !decide (b.1 < a.1)

/-- The metrics in lines. -/
def lines (m : Metrics) : List String := (m.sections.map (·.2)).flatten

/-- Whether a line depends on how long fetches took. -/
def isTimed (line : String) : Bool :=
  line.startsWith (Family.fetchDuration.name ++ "_bucket") ||
    line.startsWith (Family.fetchDuration.name ++ "_sum")

/-- Lines in one text, each with a line break at its end. -/
def joined (lines : List String) : String :=
  lines.foldl (fun text line => text ++ line ++ "\n") ""

/-- The metrics in writing. -/
def write (m : Metrics) : String := joined m.lines

/-- The metrics in lines, without those that depend on how long fetches took. -/
def untimedLines (m : Metrics) : List String := m.lines.filter fun line => !isTimed line

end StatusRelay.Metrics
