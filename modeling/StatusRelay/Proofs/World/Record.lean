/-
# What a record tells

The record of a world holds what has happened, the latest first. Two things are read off it here:
how many fetches go on at its end, and which events were on their way, the earliest first.

| view | occurrence | events |
| --- | --- | --- |
| `found` | a fetch came to its end | all that came with it, none if it crashed |
| `fresh` | the events of a fetch were filtered | those that were new |
| `sent` | a publish was completed | the one that was published |

Both can be asked of one task. What all tasks together have done is what each has done, in some
order.
-/

import StatusRelay.World
import Mathlib.Data.List.Perm.Basic

namespace StatusRelay

namespace Occurrence

/-- Whether an occurrence tells of what a worker does after a fetch. -/
def isAfterFetch : Occurrence → Bool
  | filtered .. => true
  | delivered .. => true
  | published .. => true
  | ended => true
  | _ => false

/-- The events that came with a fetch. -/
def found : Occurrence → List Event
  | fetchEnded _ _ outcome => outcome.found
  | _ => []

/-- The events of a fetch that were new. -/
def fresh : Occurrence → List Event
  | filtered _ es _ => es
  | _ => []

/-- The event that was published. -/
def sent : Occurrence → List Event
  | delivered e _ => [e]
  | _ => []

/-- The events that an occurrence tells of, on their way from a fetch to the bus. -/
def onTheWay (what : Occurrence) : List Event := what.found ++ what.fresh ++ what.sent

theorem views_of_onTheWay {what : Occurrence} (h : what.onTheWay = []) :
    what.found = [] ∧ what.fresh = [] ∧ what.sent = [] := by
  unfold onTheWay at h
  obtain ⟨h, hsent⟩ := List.append_eq_nil_iff.1 h
  obtain ⟨hfound, hfresh⟩ := List.append_eq_nil_iff.1 h
  exact ⟨hfound, hfresh, hsent⟩

end Occurrence

namespace World

variable {view : Occurrence → List Event} {log more : List Occurrence.Entry}

/-- What a record tells of one task. -/
def ofTask (i : Nat) (log : List Occurrence.Entry) : List Occurrence.Entry :=
  log.filter (·.task == i)

/-! ### Fetches -/

/-- How many fetches go on at the end of a record. -/
def inFlight : List Occurrence.Entry → Int
  | [] => 0
  | e :: log => e.what.inFlightChange + inFlight log

theorem inFlight_cons (e : Occurrence.Entry) (log : List Occurrence.Entry) :
    inFlight (e :: log) = e.what.inFlightChange + inFlight log := rfl

theorem inFlight_append (more log : List Occurrence.Entry) :
    inFlight (more ++ log) = inFlight more + inFlight log := by
  induction more with
  | nil => exact (Int.zero_add _).symm
  | cons e more ih => rw [List.cons_append, inFlight_cons, inFlight_cons, ih, Int.add_assoc]

theorem inFlight_ofTask_cons (i : Nat) (e : Occurrence.Entry) (log : List Occurrence.Entry) :
    inFlight (ofTask i (e :: log)) =
      (if e.task = i then e.what.inFlightChange else 0) + inFlight (ofTask i log) := by
  unfold ofTask
  by_cases h : e.task = i
  · rw [List.filter_cons_of_pos (by simpa using h), inFlight_cons, if_pos h]
  · rw [List.filter_cons_of_neg (by simpa using h), if_neg h, Int.zero_add]

theorem inFlight_reverse (log : List Occurrence.Entry) : inFlight log.reverse = inFlight log := by
  induction log with
  | nil => rfl
  | cons e log ih =>
    rw [List.reverse_cons, inFlight_append, ih, inFlight_cons, inFlight_cons, Int.add_comm]
    exact congrArg (· + inFlight log) (Int.add_zero _)

/-- The largest number of fetches is within a bound if their number always is. -/
theorem peak_le {bound now most : Int} (hmost : most ≤ bound)
    (hall : ∀ l, l <+: log → now + inFlight l ≤ bound) : Occurrence.peak now most log ≤ bound := by
  induction log generalizing now most with
  | nil => exact hmost
  | cons e log ih =>
    have hnow : now + e.what.inFlightChange ≤ bound := by
      have := hall [e] (by simp)
      simpa [inFlight] using this
    refine ih (Int.max_le.2 ⟨hnow, hmost⟩) fun l hl => ?_
    have := hall (e :: l) (List.cons_prefix_cons.2 ⟨rfl, hl⟩)
    rw [inFlight_cons] at this
    omega

/-! ### Events -/

/-- The events of a view, the earliest first. -/
def eventsIn (view : Occurrence → List Event) (log : List Occurrence.Entry) : List Event :=
  log.reverse.flatMap fun e => view e.what

theorem eventsIn_cons (view : Occurrence → List Event) (e : Occurrence.Entry)
    (log : List Occurrence.Entry) : eventsIn view (e :: log) = eventsIn view log ++ view e.what := by
  unfold eventsIn
  rw [List.reverse_cons, List.flatMap_append, List.flatMap_singleton]

theorem eventsIn_ofTask_cons (view : Occurrence → List Event) (i : Nat) (e : Occurrence.Entry)
    (log : List Occurrence.Entry) : eventsIn view (ofTask i (e :: log)) =
      eventsIn view (ofTask i log) ++ if e.task = i then view e.what else [] := by
  unfold ofTask
  by_cases h : e.task = i
  · rw [List.filter_cons_of_pos (by simpa using h), eventsIn_cons, if_pos h]
  · rw [List.filter_cons_of_neg (by simpa using h), if_neg h, List.append_nil]

/-- What a view does not show adds nothing to it. -/
theorem eventsIn_append_of_nil (h : ∀ e ∈ more, view e.what = []) :
    eventsIn view (more ++ log) = eventsIn view log := by
  induction more with
  | nil => rfl
  | cons e more ih =>
    rw [List.cons_append, eventsIn_cons, h e List.mem_cons_self, List.append_nil]
    exact ih fun e he => h e (List.mem_cons_of_mem _ he)

theorem eventsIn_ofTask_append_of_nil (i : Nat) (h : ∀ e ∈ more, view e.what = []) :
    eventsIn view (ofTask i (more ++ log)) = eventsIn view (ofTask i log) := by
  unfold ofTask
  rw [List.filter_append]
  exact eventsIn_append_of_nil fun e he => h e (List.mem_of_mem_filter he)

theorem flatMap_range_ite (es : List Event) {i n : Nat} (h : i < n) :
    ((List.range n).flatMap fun j => if i = j then es else []) = es := by
  induction n with
  | zero => omega
  | succ n ih =>
    rw [List.range_succ, List.flatMap_append, List.flatMap_singleton]
    by_cases hn : i = n
    · have hnil : ((List.range n).flatMap fun j => if i = j then es else []) = [] := by
        refine List.flatMap_eq_nil_iff.2 fun j hj => if_neg ?_
        have := List.mem_range.1 hj
        omega
      rw [hnil, if_pos hn, List.nil_append]
    · rw [ih (by omega), if_neg hn, List.append_nil]

/-- **What all tasks have done is what each has done,** in some order. -/
theorem eventsIn_perm (view : Occurrence → List Event) {n : Nat} (h : ∀ e ∈ log, e.task < n) :
    (eventsIn view log).Perm ((List.range n).flatMap fun i => eventsIn view (ofTask i log)) := by
  induction log with
  | nil =>
    have hnil : ((List.range n).flatMap fun i => eventsIn view (ofTask i [])) = [] :=
      List.flatMap_eq_nil_iff.2 fun _ _ => rfl
    rw [hnil]
    exact List.Perm.refl _
  | cons e log ih =>
    have he := h e List.mem_cons_self
    have hlog := ih fun e he => h e (List.mem_cons_of_mem _ he)
    simp only [eventsIn_cons, eventsIn_ofTask_cons]
    refine List.Perm.trans ?_ (List.flatMap_append_perm _ _ _)
    rw [flatMap_range_ite (view e.what) he]
    exact hlog.append_right _

end World
end StatusRelay
