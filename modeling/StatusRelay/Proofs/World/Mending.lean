/-
# Fetches that are mended

A fetch that crashes is mended when it takes the same time and comes with no events instead. What was
the same before, but for fetches that were mended, is related by `Mends`:

| | may differ in |
| --- | --- |
| the outcome of a fetch | a crash that became nothing |
| the stage of a worker | the outcome that its fetch will come to |
| a worker | its stage, as far as that, and its faults |
| a task | the worker that it is |
| an entry of a record | the outcome of the fetch that it tells the end of |

The numbers of fetches stay when some are mended. So in two records that correspond it is known for
each fetch whether it crashed, and whether it was mended.
-/

import StatusRelay.Proofs.World.Calls
import StatusRelay.Proofs.World.Tally
import Mathlib.Data.List.Forall2

namespace StatusRelay

/-! ### Lists that correspond -/

section Lists

variable {α β : Type} {R : α → β → Prop} {as : List α} {bs : List β}

theorem forall₂_getElem? (h : List.Forall₂ R as bs) (i : Nat) :
    as[i]? = none ∧ bs[i]? = none ∨ ∃ a b, as[i]? = some a ∧ bs[i]? = some b ∧ R a b := by
  induction h generalizing i with
  | nil => exact Or.inl ⟨rfl, rfl⟩
  | cons hab _ ih =>
    cases i with
    | zero => exact Or.inr ⟨_, _, rfl, rfl, hab⟩
    | succ i => exact ih i

theorem forall₂_set (h : List.Forall₂ R as bs) (i : Nat) {a : α} {b : β} (hab : R a b) :
    List.Forall₂ R (as.set i a) (bs.set i b) := by
  induction h generalizing i with
  | nil => exact .nil
  | cons hab' hrest ih =>
    cases i with
    | zero => exact .cons hab hrest
    | succ i => exact .cons hab' (ih i)

theorem filterMap_eq_of_forall₂ {γ : Type} {f : α → Option γ} {g : β → Option γ}
    (hfg : ∀ a b, R a b → g b = f a) (h : List.Forall₂ R as bs) :
    bs.filterMap g = as.filterMap f := by
  induction h with
  | nil => rfl
  | cons hab _ ih => rw [List.filterMap_cons, List.filterMap_cons, ih, hfg _ _ hab]

theorem all_eq_of_forall₂ {p : α → Bool} {q : β → Bool} (hpq : ∀ a b, R a b → q b = p a)
    (h : List.Forall₂ R as bs) : bs.all q = as.all p := by
  induction h with
  | nil => rfl
  | cons hab _ ih => rw [List.all_cons, List.all_cons, ih, hpq _ _ hab]

end Lists

/-! ### What is mended -/

/-- What becomes of a fetch: it comes with no events instead of crashing. -/
def FetchOutcome.mended : FetchOutcome → FetchOutcome
  | crashed _ => events []
  | outcome => outcome

/-- Whether a fetch crashed, and the worker carried on. -/
def FetchOutcome.isCrash : FetchOutcome → Bool
  | crashed _ => true
  | _ => false

/-- The second outcome is the first, which may have been mended. -/
inductive FetchOutcome.Mends : FetchOutcome → FetchOutcome → Prop
  | same (outcome : FetchOutcome) : Mends outcome outcome
  | crashed (crash : Crash) : Mends (crashed crash) (events [])

theorem FetchOutcome.mends_mended (o : FetchOutcome) : o.Mends o.mended := by
  cases o with
  | events es => exact .same _
  | crashed crash => exact .crashed crash
  | deadly => exact .same _

/-- A provider of which some fetches are mended, given by their numbers. -/
def Provider.mend (replaced : Nat → Bool) (p : Provider) : Provider := { p with
  fetch := fun n =>
    if replaced n then { p.fetch n with outcome := (p.fetch n).outcome.mended } else p.fetch n }

/-- Providers of which some fetches are mended, given by the places of the providers and the numbers
of the fetches. A fetch that does not crash stays as it is. -/
def mendAll (replaced : Nat → Nat → Bool) (ps : List Provider) : List Provider :=
  ps.mapIdx fun i p => p.mend (replaced i)

theorem Provider.mend_fetch (replaced : Nat → Bool) (p : Provider) (n : Nat) :
    ((p.mend replaced).fetch n).delay = (p.fetch n).delay ∧
      (p.fetch n).outcome.Mends ((p.mend replaced).fetch n).outcome := by
  unfold Provider.mend
  by_cases h : replaced n = true
  · simp only [h, if_true]
    exact ⟨trivial, FetchOutcome.mends_mended _⟩
  · simp only [h]
    exact ⟨rfl, .same _⟩

/-- The stage of a worker whose fetch may have been mended. -/
inductive Stage.Mends : Stage → Stage → Prop
  | same (stage : Stage) : Mends stage stage
  | fetching (since due : Nat) {o o' : FetchOutcome} (h : o.Mends o') :
      Mends (.fetching since due o) (.fetching since due o')

theorem Stage.Mends.isOver {stage stage' : Stage} (h : stage.Mends stage') :
    stage'.isOver = stage.isOver := by
  cases h <;> rfl

theorem Stage.Mends.state {stage stage' : Stage} (h : stage.Mends stage') :
    stage'.state = stage.state := by
  cases h <;> rfl

namespace Worker

/-- Workers that are the same but for their stages and faults. -/
def Peer (k k' : Worker) : Prop := ∃ (stage : Stage) (faults : Nat),
  k' = { k with stage := stage, tally := { k.tally with faults := faults } }

/-- Workers that are the same but for their faults, and for a fetch that may have been mended. -/
def Mends (k k' : Worker) : Prop := k.Peer k' ∧ k.stage.Mends k'.stage

namespace Peer

variable {k k' : Worker}

theorem refl (k : Worker) : k.Peer k := ⟨k.stage, k.tally.faults, rfl⟩

/-- Whatever their stages were, they come to stages that correspond. -/
theorem mends (h : k.Peer k') {stage stage' : Stage} (hs : stage.Mends stage') :
    Mends { k with stage := stage } { k' with stage := stage' } := by
  obtain ⟨s, f, rfl⟩ := h
  exact ⟨⟨stage', f, rfl⟩, hs⟩

end Peer
end Worker

/-- A summary that says nothing of faults. -/
def WorkerSummary.withoutFaults (s : WorkerSummary) : WorkerSummary :=
  { s with tally := { s.tally with faults := 0 } }

namespace Worker.Mends

variable {k k' : Worker}

theorem summary (h : k.Mends k') : k'.summary.withoutFaults = k.summary.withoutFaults := by
  obtain ⟨⟨stage', f, rfl⟩, hs⟩ := h
  have hstate : stage'.state = k.stage.state := hs.state
  unfold Worker.summary WorkerSummary.withoutFaults
  simp only [hstate]

theorem report? (h : k.Mends k') :
    k'.report?.map WorkerSummary.withoutFaults = k.report?.map WorkerSummary.withoutFaults := by
  have hcancelled : k'.stage = .cancelled ↔ k.stage = .cancelled := by
    obtain ⟨-, hs⟩ := h
    generalize k.stage = stage, k'.stage = stage' at hs
    cases hs <;> simp
  unfold Worker.report?
  by_cases hstage : k.stage = .cancelled
  · rw [if_pos hstage, if_pos (hcancelled.2 hstage)]
    exact congrArg some h.summary
  · rw [if_neg hstage, if_neg fun hstage' => hstage (hcancelled.1 hstage')]

end Worker.Mends

/-- Tasks that are the same but for fetches that may have been mended. -/
inductive Task.Mends : Task → Task → Prop
  | same (t : Task) : Mends t t
  | worker {k k' : Worker} (h : k.Mends k') : Mends (.worker k) (.worker k')

namespace Task.Mends

variable {t t' : Task}

theorem isOver (h : t.Mends t') : t'.isOver = t.isOver := by
  cases h with
  | same => rfl
  | worker h => exact h.2.isOver

end Task.Mends

namespace Occurrence

/-- Occurrences that are the same but for a fetch that may have been mended. -/
inductive Mends : Occurrence → Occurrence → Prop
  | same (what : Occurrence) : Mends what what
  | fetchEnded (name : String) (elapsed : Nat) {o o' : FetchOutcome} (h : o.Mends o') :
      Mends (.fetchEnded name elapsed o) (.fetchEnded name elapsed o')

/-- Entries of a record that are the same but for a fetch that may have been mended. -/
def Entry.Mends (e e' : Entry) : Prop :=
  e'.time = e.time ∧ e'.task = e.task ∧ e.what.Mends e'.what

end Occurrence

namespace World

open Occurrence (Entry)

/-- How many fetches of a task came to their end that crashed, and are mended in another world. -/
def mendedOf (replaced : Nat → Nat → Bool) (ps : List Provider) (w : World) (i : Nat) : Nat :=
  (completed ps w.sourceOf i w.log).countP fun f => f.2.isCrash && replaced (w.sourceOf i) f.1

section Numbers

variable {replaced : Nat → Nat → Bool} {ps : List Provider} {source : Nat → Nat} {i : Nat}
  {log log' : List Entry}

theorem getElem?_mendAll (s : Nat) :
    (mendAll replaced ps)[s]? = (ps[s]?).map (Provider.mend (replaced s)) :=
  List.getElem?_mapIdx

/-- What a fetch comes to when some are mended. -/
theorem outcomeOf_mendAll (s n : Nat) : outcomeOf (mendAll replaced ps) s n =
    if replaced s n then (outcomeOf ps s n).mended else outcomeOf ps s n := by
  unfold outcomeOf
  rw [getElem?_mendAll]
  rcases ps[s]? with _ | p
  · exact (ite_self _).symm
  · by_cases h : replaced s n = true <;> simp [Provider.mend, h]

theorem firstCall_mendAll (s : Nat) : firstCall (mendAll replaced ps) s = firstCall ps s := by
  unfold firstCall
  rw [getElem?_mendAll, Option.map_map]
  rfl

/-- The numbers of fetches stay when some are mended. -/
theorem numbers_mendAll (replaced : Nat → Nat → Bool) (ps : List Provider) (source : Nat → Nat)
    (i : Nat) (h : List.Forall₂ Entry.Mends log log') :
    (∀ s, begun source s log' = begun source s log) ∧
      callOf (mendAll replaced ps) source i log' = callOf ps source i log ∧
        (completed (mendAll replaced ps) source i log').map Prod.fst =
          (completed ps source i log).map Prod.fst := by
  induction h with
  | nil => exact ⟨fun _ => rfl, rfl, rfl⟩
  | @cons e e' log log' he _ ih =>
    obtain ⟨hbegun, hcall, hcompleted⟩ := ih
    obtain ⟨-, htask, hwhat⟩ := he
    have hbegin : e'.what.isBegin = e.what.isBegin := by
      generalize e.what = what, e'.what = what' at hwhat
      cases hwhat <;> rfl
    refine ⟨fun s => ?_, ?_, ?_⟩
    · unfold begun at hbegun ⊢
      rw [List.countP_cons, List.countP_cons, hbegun, hbegin, htask]
    · unfold callOf
      rw [hbegin, htask, hcall, hbegun, firstCall_mendAll]
    · unfold completed
      rw [htask]
      by_cases hi : e.task = i
      · rw [if_pos hi, if_pos hi]
        generalize e.what = what, e'.what = what' at hwhat
        cases hwhat with
        | same =>
          cases what.outcome? with
          | none => exact hcompleted
          | some outcome => simp [hcall, hcompleted]
        | fetchEnded name elapsed ho => simp [Occurrence.outcome?, hcall, hcompleted]
      · rw [if_neg hi, if_neg hi]
        exact hcompleted

/-- **Fetches come to the same when some are mended,** but for these. -/
theorem completed_mendAll (h : List.Forall₂ Entry.Mends log log')
    (hended : ∀ f ∈ completed ps source i log, f.2 = outcomeOf ps (source i) f.1)
    (hended' : ∀ f ∈ completed (mendAll replaced ps) source i log',
      f.2 = outcomeOf (mendAll replaced ps) (source i) f.1) :
    completed (mendAll replaced ps) source i log' = (completed ps source i log).map fun f =>
      (f.1, if replaced (source i) f.1 then f.2.mended else f.2) := by
  have hnumbers := (numbers_mendAll replaced ps source i h).2.2
  generalize completed ps source i log = fs at hended hnumbers
  generalize completed (mendAll replaced ps) source i log' = fs' at hended' hnumbers
  induction fs generalizing fs' with
  | nil => simpa using hnumbers
  | cons f fs ih =>
    rcases fs' with _ | ⟨f', fs'⟩
    · simp at hnumbers
    · obtain ⟨hf, hfs⟩ := List.cons.inj hnumbers
      have hhead := hended' f' List.mem_cons_self
      rw [hf, outcomeOf_mendAll, ← hended f List.mem_cons_self] at hhead
      rw [List.map_cons, ← ih (fun f hf => hended f (List.mem_cons_of_mem _ hf)) fs'
        (fun f hf => hended' f (List.mem_cons_of_mem _ hf)) hfs, ← hhead, ← hf]

/-- The fetches that crash are those that still do when some are mended, and those that were. -/
theorem countP_mended (fs : List (Nat × FetchOutcome)) (chosen : Nat → Bool) :
    fs.countP (·.2.isFault) =
      (fs.map fun f => (f.1, if chosen f.1 then f.2.mended else f.2)).countP (·.2.isFault) +
        fs.countP fun f => f.2.isCrash && chosen f.1 := by
  induction fs with
  | nil => rfl
  | cons f fs ih =>
    rw [List.map_cons, List.countP_cons, List.countP_cons, List.countP_cons, ih]
    rcases f with ⟨n, outcome⟩
    cases outcome <;> by_cases hn : chosen n = true <;>
      simp [hn, FetchOutcome.isFault, FetchOutcome.isCrash, FetchOutcome.mended] <;> omega

end Numbers

end World
end StatusRelay
