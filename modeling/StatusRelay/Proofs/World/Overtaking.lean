/-
# Who is served before whom

A worker that asks for a permit and finds none waits in line, until a permit is handed to it; it
begins its fetch when it is polled next. This is about the fetches that other workers begin in the
meantime. Two stretches of time have to be told apart:

| the worker | fetches that another begins |
| --- | --- |
| waits in line | one at most, in whatever order tasks are polled |
| has a permit and has not been polled | none from the line, but any that finds a permit free |

In the second stretch the worker stands in the queue of tasks to poll. If tasks are polled in the
order of the queue, nobody is polled twice before it, so that another begins one fetch more at most.

The first bound rests on one invariant, `Fair`: whoever stands in line before a worker, or has been
handed a permit, has begun nothing since the worker asked.
-/

import Mathlib.Data.List.Induction
import StatusRelay.Proofs.World.Control
import StatusRelay.Proofs.World.Waking

namespace StatusRelay

/-- Who is served before a task that waits: those who have been handed a permit, and those before it
in line. -/
def Permits.ahead (p : Permits) (i : Nat) : List Nat := p.given ++ p.line.takeWhile (· != i)

/-- Who collects a permit was handed one, and is then not served any more. -/
theorem Permits.collect?_eq_some {p p' : Permits} {i : Nat} (h : p.collect? i = some p')
    (hnodup : (p.line ++ p.given).Nodup) :
    i ∈ p.given ∧ p' = { p with given := p.given.erase i } ∧ i ∉ p'.line ++ p'.given := by
  unfold collect? at h
  split at h
  · rename_i hg
    obtain rfl := Option.some.inj h
    obtain ⟨-, hgiven, hapart⟩ := List.nodup_append.1 hnodup
    have hmem : i ∈ p.given := by simpa using hg
    refine ⟨hmem, rfl, ?_⟩
    rw [List.mem_append, not_or]
    exact ⟨fun hl => hapart i hl i hmem rfl, hgiven.not_mem_erase⟩
  · simp at h

namespace World

variable {i j t : Nat} {w w' : World}

/-! ### Fetches in a record -/

/-- Whether an entry tells that a task began a fetch. -/
def isBeginOf (j : Nat) (e : Occurrence.Entry) : Bool := e.task == j && e.what == .fetchBegan

/-- How many fetches a task has begun since another asked for a permit last. -/
def begunSince (i j : Nat) : List Occurrence.Entry → Nat
  | [] => 0
  | e :: log =>
    if e.task = i ∧ e.what = .asked then 0
    else begunSince i j log + if isBeginOf j e then 1 else 0

theorem begunSince_asked (i j time : Nat) (log : List Occurrence.Entry) :
    begunSince i j (⟨time, i, .asked⟩ :: log) = 0 := by
  simp [begunSince]

/-- **Only the fetches of the task that is polled are added.** -/
theorem begunSince_append_le {more : List Occurrence.Entry} (hmore : ∀ e ∈ more, e.task = t)
    (i j : Nat) (log : List Occurrence.Entry) : begunSince i j (more ++ log) ≤
      begunSince i j log + if j = t then more.countP (isBeginOf t) else 0 := by
  induction more with
  | nil => simp
  | cons e more ih =>
    have htask := hmore e List.mem_cons_self
    have ih := ih fun e he => hmore e (List.mem_cons_of_mem _ he)
    have hone : (if isBeginOf j e then 1 else 0) =
        if j = t then (if isBeginOf t e then 1 else 0) else 0 := by
      by_cases hj : j = t
      · subst hj
        simp
      · have hne : ¬t = j := fun h => hj h.symm
        simp [isBeginOf, htask, hj, hne]
    rw [List.cons_append, begunSince, List.countP_cons]
    split
    · exact Nat.zero_le _
    · split_ifs at ih hone ⊢ <;> omega

/-! ### The line -/

theorem mem_takeWhile_erase {l : List Nat} (h : j ∈ (l.erase t).takeWhile (· != i))
    (hne : t ≠ i) : j ∈ l.takeWhile (· != i) := by
  induction l with
  | nil => simp at h
  | cons x l ih =>
    by_cases hx : x = t
    · subst hx
      rw [List.erase_cons_head] at h
      rw [List.takeWhile_cons_of_pos (by simpa using hne)]
      exact List.mem_cons_of_mem _ h
    · rw [List.erase_cons_tail (by simpa using hx)] at h
      by_cases hi : x = i
      · subst hi
        simp at h
      · rw [List.takeWhile_cons_of_pos (by simpa using hi)] at h ⊢
        rcases List.mem_cons.1 h with rfl | h
        · exact List.mem_cons_self
        · exact List.mem_cons_of_mem _ (ih h)

/-- **A task has been polled,** has begun so many fetches, and has not asked for a permit in vain:
nobody has come to the line, nobody was let in before others, and permits were handed only to those
in line. -/
structure Passes (t n : Nat) (w w' : World) : Prop where
  log : ∃ more, w'.log = more ++ w.log ∧ (∀ e ∈ more, e.task = t) ∧ more.countP (isBeginOf t) = n
  line : ∀ i ∈ w'.permits.line, i ∈ w.permits.line ∧ w'.permits.ahead i ⊆ w.permits.ahead i
  given : ∀ i ∈ w'.permits.given, i ∈ w.permits.line ∨ i ∈ w.permits.given

namespace Passes

variable {n m : Nat}

theorem of_same (hline : w'.permits.line = w.permits.line)
    (hgiven : w'.permits.given = w.permits.given) (hlog : w'.log = w.log) : Passes t 0 w w' := by
  refine ⟨⟨[], by rw [hlog]; rfl, by simp, rfl⟩, fun i hi => ⟨hline ▸ hi, fun x hx => ?_⟩,
    fun i hi => Or.inr (hgiven ▸ hi)⟩
  unfold Permits.ahead at hx ⊢
  rwa [hline, hgiven] at hx

theorem refl (t : Nat) (w : World) : Passes t 0 w w := of_same rfl rfl rfl

theorem trans {a b c : World} (h : Passes t n a b) (h' : Passes t m b c) :
    Passes t (m + n) a c where
  log := by
    obtain ⟨more, hb, htask, hcount⟩ := h.log
    obtain ⟨more', hc, htask', hcount'⟩ := h'.log
    refine ⟨more' ++ more, by rw [hc, hb, List.append_assoc], fun e he => ?_, ?_⟩
    · exact (List.mem_append.1 he).elim (htask' e) (htask e)
    · rw [List.countP_append, hcount, hcount']
  line := fun i hi => by
    obtain ⟨hmem, hsub⟩ := h'.line i hi
    obtain ⟨hmem', hsub'⟩ := h.line i hmem
    exact ⟨hmem', List.Subset.trans hsub hsub'⟩
  given := fun i hi => by
    rcases h'.given i hi with hi | hi
    · exact Or.inl (h.line i hi).1
    · exact h.given i hi

/-- The way from another world with the same line and record. -/
theorem from_same {a : World} (h : Passes t n a w') (hline : a.permits.line = w.permits.line)
    (hgiven : a.permits.given = w.permits.given) (hlog : a.log = w.log) : Passes t n w w' :=
  (of_same hline hgiven hlog).trans h

theorem quiet (h : Quiet t w w') : Passes t 0 w w' := by
  obtain ⟨more, hlog, hmore⟩ := h.log
  have hsame : Passes t 0 w { w with permits := w'.permits } :=
    of_same (by rw [h.permits]) (by rw [h.permits]) rfl
  refine ⟨⟨more, hlog, fun e he => (hmore e he).1, ?_⟩, hsame.line, hsame.given⟩
  rw [List.countP_eq_zero]
  intro e he
  have hchange := (hmore e he).2
  simp only [isBeginOf, Bool.and_eq_true, beq_iff_eq, not_and]
  intro _ hwhat
  rw [hwhat] at hchange
  simp [Occurrence.inFlightChange] at hchange

/-- Who is not served, and does not join the line, is still not. -/
theorem notMem (h : Passes t n w w') (ht : t ∉ w.permits.line ++ w.permits.given) :
    t ∉ w'.permits.line ++ w'.permits.given := by
  intro hmem
  refine ht ?_
  rcases List.mem_append.1 hmem with hmem | hmem
  · exact List.mem_append_left _ (h.line t hmem).1
  · exact List.mem_append.2 (h.given t hmem)

/-- A permit that comes back is handed to the first in line. -/
theorem release (w : World) (hnodup : w.permits.line.Nodup) : Passes t 0 w w.releasePermit := by
  rcases releasePermit_eq w with ⟨hl, hw⟩ | ⟨j, rest, more, hl, hw, -⟩
  · rw [hw]
    exact ⟨⟨[], rfl, by simp, rfl⟩, fun i hi => ⟨hi, List.Subset.refl _⟩, fun i hi => Or.inr hi⟩
  · rw [hl] at hnodup
    obtain ⟨hout, -⟩ := List.nodup_cons.1 hnodup
    rw [hw]
    refine ⟨⟨[], rfl, by simp, rfl⟩, fun i hi => ?_, fun i hi => ?_⟩
    · have hne : j ≠ i := fun h => hout (h ▸ hi)
      rw [hl]
      refine ⟨List.mem_cons_of_mem _ hi, fun x hx => ?_⟩
      unfold Permits.ahead at hx ⊢
      rw [hl, List.takeWhile_cons_of_pos (by simpa using hne)]
      simpa using hx
    · rw [hl]
      rcases List.mem_append.1 hi with hi | hi
      · exact Or.inr hi
      · exact Or.inl (List.mem_singleton.1 hi ▸ List.mem_cons_self)

/-- A place in line is given up. -/
theorem leave (w : World) {permits : Permits} (hline : permits.line = w.permits.line.erase t)
    (hgiven : permits.given = w.permits.given) (hnodup : w.permits.line.Nodup) :
    Passes t 0 w { w with permits := permits } := by
  refine ⟨⟨[], rfl, by simp, rfl⟩, fun i hi => ?_, fun i hi => Or.inr (hgiven ▸ hi)⟩
  have hi : i ∈ w.permits.line.erase t := hline ▸ hi
  refine ⟨List.mem_of_mem_erase hi, fun x hx => ?_⟩
  have hne : t ≠ i := fun h => hnodup.not_mem_erase (h ▸ hi)
  unfold Permits.ahead at hx ⊢
  simp only [hline, hgiven] at hx
  rcases List.mem_append.1 hx with hx | hx
  · exact List.mem_append_left _ hx
  · exact List.mem_append_right _ (mem_takeWhile_erase hx hne)

/-- A permit that was handed to a task is collected. -/
theorem collect (w : World) (t : Nat) :
    Passes t 0 w { w with permits := { w.permits with given := w.permits.given.erase t } } := by
  refine ⟨⟨[], rfl, by simp, rfl⟩, fun i hi => ⟨hi, fun x hx => ?_⟩,
    fun i hi => Or.inr (List.mem_of_mem_erase hi)⟩
  rcases List.mem_append.1 hx with hx | hx
  · exact List.mem_append_left _ (List.mem_of_mem_erase hx)
  · exact List.mem_append_right _ hx

/-! ### Workers -/

theorem finishFetch (w : World) (hnodup : w.permits.line.Nodup) (k : Worker) (since : Nat)
    (outcome : FetchOutcome) : Passes t 0 w (w.finishFetch t k since outcome) := by
  have hended : Passes t 0 w
      (w.releasePermit.note t (.fetchEnded k.name (w.now - since) outcome)) := by
    refine (release w hnodup).trans (m := 0) ⟨⟨[_], rfl, by simp, ?_⟩, ?_, ?_⟩
    · simp [isBeginOf]
    · exact fun i hi => ⟨hi, List.Subset.refl _⟩
    · exact fun i hi => Or.inr hi
  unfold World.finishFetch
  cases outcome with
  | events es => exact hended.trans (quiet (Quiet.sift _ _ _))
  | crashed crash => exact hended.trans (quiet (Quiet.sift _ _ _))
  | deadly => exact hended.trans (quiet (Quiet.endWorker _ _ _))

/-- After it has begun a fetch, a worker begins no other in this poll. -/
theorem afterBegin (w : World) (hnodup : w.permits.line.Nodup) (k : Worker) :
    Passes t 0 (w.note t .fetchBegan) (w.beginFetch t k) := by
  unfold World.beginFetch
  simp only
  split
  · exact finishFetch _ (by exact hnodup) _ _ _
  · split
    · exact (finishFetch _ (by exact hnodup) _ _ _).from_same rfl rfl rfl
    · exact (quiet ((Quiet.put _ _).trans (Quiet.setTimer _ _ _))).from_same rfl rfl rfl

theorem beginFetch (w : World) (hnodup : w.permits.line.Nodup) (k : Worker) :
    Passes t 1 w (w.beginFetch t k) := by
  have hbegan : Passes t 1 w (w.note t .fetchBegan) :=
    ⟨⟨[_], rfl, by simp, by simp [isBeginOf]⟩, fun i hi => ⟨hi, List.Subset.refl _⟩,
      fun i hi => Or.inr hi⟩
  exact hbegan.trans (afterBegin w hnodup k)

end Passes

/-! ### A poll -/

/-- **What a poll can come to:** the task begins no fetch, or one, or it joins the line. It begins
one only with a permit that was handed to it, or if nobody is in line. -/
inductive Turn (t : Nat) (w w' : World) : Prop
  | idle (h : Passes t 0 w w') (hg : t ∉ w'.permits.given)
  | begun (h : Passes t 1 w w') (hp : t ∈ w.permits.given ∨ w.permits.line = [])
      (ht : t ∉ w'.permits.line ++ w'.permits.given)
  | joined (hp : w'.permits = w.permits.join t)
      (hlog : ∃ time, w'.log = ⟨time, t, .asked⟩ :: w.log)
      (ht : t ∉ w.permits.line ++ w.permits.given)

namespace Turn

variable {limit : Nat}

theorem of_passes (h : Passes t 0 w w') (ht : t ∉ w.permits.line ++ w.permits.given) :
    Turn t w w' :=
  .idle h fun hg => h.notMem ht (List.mem_append_right _ hg)

theorem askPermit (hopened : w.permits.closed = false)
    (hscarce : w.permits.line ≠ [] → w.permits.free = 0) (hnodup : w.permits.line.Nodup)
    (ht : t ∉ w.permits.line ++ w.permits.given) (k : Worker) : Turn t w (w.askPermit t k) := by
  have hasked : Passes t 0 w (w.note t .asked) := .quiet (Quiet.note _ _ rfl)
  unfold World.askPermit
  simp only [show (w.note t .asked).permits = w.permits from rfl, hopened, Bool.false_eq_true,
    if_false]
  split
  · rename_i permits htake
    unfold Permits.take? at htake
    split at htake
    · simp at htake
    · rename_i hfree
      obtain rfl := Option.some.inj htake
      have hline : w.permits.line = [] := by
        by_contra hne
        simp [hopened, hscarce hne] at hfree
      have hfetch := Passes.beginFetch (t := t)
        { w.note t .asked with permits := { w.permits with free := w.permits.free - 1 } } hnodup k
      have hbegun := hasked.trans (hfetch.from_same (w := w.note t .asked) rfl rfl rfl)
      exact .begun hbegun (Or.inr hline) (hbegun.notMem ht)
  · exact .joined rfl ⟨w.now, rfl⟩ ht

theorem stopWorker (hnodup : (w.permits.line ++ w.permits.given).Nodup) {k : Worker}
    (ht : k.stage ≠ .queued → t ∉ w.permits.line ++ w.permits.given) :
    Turn t w (w.stopWorker t k) := by
  have hline := (List.nodup_append.1 hnodup).1
  have hend (w' : World) : Passes t 0 w' (w'.endWorker t k .cancelled) :=
    .quiet (Quiet.endWorker _ _ _)
  unfold World.stopWorker
  cases hstage : k.stage with
  | queued =>
    rcases hc : w.permits.collect? t with _ | permits
    · -- It is in line, and leaves it.
      have hleave : Passes t 0 w { w with
          permits := { w.permits with line := w.permits.line.erase t } } := .leave w rfl rfl hline
      have hgiven : t ∉ w.permits.given := Accounts.notMem_given_of_collect? hc
      simp only [Permits.leave, hc]
      exact .idle (hleave.trans (hend _)) hgiven
    · -- It has been handed a permit, which is passed on.
      obtain ⟨-, rfl, hout⟩ := Permits.collect?_eq_some hc hnodup
      have hpassed := (Passes.release (t := t)
        { w with permits := { w.permits with given := w.permits.given.erase t } } hline).trans
          (hend _)
      simp only [Permits.leave, hc]
      exact .idle ((Passes.collect w t).trans hpassed) fun hg =>
        hpassed.notMem hout (List.mem_append_right _ hg)
  | fetching since due outcome =>
    have hnote : Passes t 0 w.releasePermit (w.releasePermit.note t .fetchAbandoned) := by
      refine ⟨⟨[_], rfl, by simp, by simp [isBeginOf]⟩, fun i hi => ⟨hi, List.Subset.refl _⟩,
        fun i hi => Or.inr hi⟩
    exact of_passes (((Passes.release w hline).trans hnote).trans (hend _)) (ht (by simp [hstage]))
  | publishing pending =>
    exact of_passes ((Passes.quiet (Quiet.cancelPublish w)).trans (hend _)) (ht (by simp [hstage]))
  | _ => exact of_passes (hend w) (ht (by simp [hstage]))

theorem pollWorker (hopened : w.permits.closed = false)
    (hscarce : w.permits.line ≠ [] → w.permits.free = 0)
    (hnodup : (w.permits.line ++ w.permits.given).Nodup) {k : Worker}
    (ht : k.stage ≠ .queued → t ∉ w.permits.line ++ w.permits.given) :
    Turn t w (w.pollWorker t k) := by
  have hline := (List.nodup_append.1 hnodup).1
  unfold World.pollWorker
  split
  · exact stopWorker hnodup ht
  · cases hstage : k.stage with
    | ready => exact askPermit hopened hscarce hline (ht (by simp [hstage])) k
    | queued =>
      simp only [hopened, Bool.false_eq_true, if_false]
      split
      · rename_i permits hc
        obtain ⟨hmem, rfl, hout⟩ := Permits.collect?_eq_some hc hnodup
        have hbegin := Passes.beginFetch (t := t)
          { w with permits := { w.permits with given := w.permits.given.erase t } } hline k
        exact .begun ((Passes.collect w t).trans hbegin) (Or.inl hmem) (hbegin.notMem hout)
      · rename_i hc
        exact .idle (Passes.refl t w) (Accounts.notMem_given_of_collect? hc)
    | fetching since due outcome =>
      have hout := ht (by simp [hstage])
      simp only
      split
      · exact of_passes (Passes.finishFetch w hline k since outcome) hout
      · exact of_passes (Passes.refl t w) hout
    | publishing pending =>
      exact of_passes (.quiet (Quiet.publish w k pending)) (ht (by simp [hstage]))
    | sleeping due =>
      have hout := ht (by simp [hstage])
      simp only
      split
      · exact askPermit hopened hscarce hline hout k
      · exact of_passes (Passes.refl t w) hout
    | _ => exact of_passes (Passes.refl t w) (ht (by simp [hstage]))

/-- **Every poll comes to one of the three.** -/
theorem poll (h : Accounts limit none 0 0 w) (t : Nat) :
    Turn t w ({ w with ready := w.ready.erase t }.poll t) := by
  have hstage : w.stageAt t ≠ some .queued → t ∉ w.permits.line ++ w.permits.given :=
    fun hq hmem => hq ((h.waiting t).1 hmem).2
  have hrefl : w.stageAt t ≠ some .queued → Turn t w { w with ready := w.ready.erase t } := fun hq =>
    of_passes (.of_same rfl rfl rfl) (hstage hq)
  unfold World.poll
  rcases htask : w.tasks[t]? with _ | task
  · refine hrefl ?_
    rw [stageAt_of_other fun t' ht' => by simp [htask] at ht']
    simp
  · have hother : task.worker? = none → w.stageAt t ≠ some .queued := fun hw => by
      rw [stageAt_of_other fun t' ht' => by rwa [← Option.some.inj (htask.symm.trans ht')]]
      simp
    simp only
    split
    · rename_i hover
      refine hrefl ?_
      cases task with
      | worker k =>
        rw [stageAt_of_worker htask]
        rintro hq
        simp [Task.isOver, Option.some.inj hq, Stage.isOver] at hover
      | consumer c => exact hother rfl
      | publisher event stage => exact hother rfl
    · cases task with
      | worker k =>
        have hturn := pollWorker (w := { w with ready := w.ready.erase t }) (t := t) (k := k)
          h.opened h.scarce h.nodup fun hq => hstage (by
            rw [stageAt_of_worker htask]
            exact fun heq => hq (Option.some.inj heq))
        cases hturn with
        | idle hp hg => exact .idle (hp.from_same rfl rfl rfl) hg
        | begun hp hfrom hout => exact .begun (hp.from_same rfl rfl rfl) hfrom hout
        | joined hp hlog hout => exact .joined hp hlog hout
      | consumer c =>
        have hidle : Idle t { w with ready := w.ready.erase t } _ := Idle.pollConsumer _ c
        exact of_passes ((Passes.quiet hidle.toQuiet).from_same rfl rfl rfl) (hstage (hother rfl))
      | publisher event stage =>
        have hquiet : Quiet t { w with ready := w.ready.erase t } _ :=
          Quiet.pollPublisher _ event stage
        exact of_passes ((Passes.quiet hquiet).from_same rfl rfl rfl) (hstage (hother rfl))

/-- Whoever was handed a permit before, and is not any more, or is still in line, is another. -/
theorem of_given (h : Turn t w w') {i : Nat} (hi : i ∈ w'.permits.given) :
    i ≠ t ∧ (i ∈ w.permits.line ∨ i ∈ w.permits.given) := by
  cases h with
  | idle h hg => exact ⟨fun heq => hg (heq ▸ hi), h.given i hi⟩
  | begun h hp ht =>
    exact ⟨fun heq => ht (heq ▸ List.mem_append_right _ hi), h.given i hi⟩
  | joined hp hlog ht =>
    rw [hp] at hi
    exact ⟨fun heq => ht (heq ▸ List.mem_append_right _ hi), Or.inr hi⟩

/-- **One fetch is begun at most,** and only by the task that is polled. It has then been handed a
permit before, or nobody is in line, and it is not served any more. -/
theorem begunSince_cases (h : Turn t w w') (i j : Nat) :
    begunSince i j w'.log ≤ begunSince i j w.log ∨
      j = t ∧ begunSince i j w'.log ≤ begunSince i j w.log + 1 ∧
        (t ∈ w.permits.given ∨ w.permits.line = []) ∧ t ∉ w'.permits.line ++ w'.permits.given := by
  cases h with
  | idle h hg =>
    obtain ⟨more, hlog, htask, hcount⟩ := h.log
    have hle := begunSince_append_le htask i j w.log
    rw [← hlog, hcount, ite_self] at hle
    exact Or.inl hle
  | begun h hp ht =>
    obtain ⟨more, hlog, htask, hcount⟩ := h.log
    have hle := begunSince_append_le htask i j w.log
    rw [← hlog, hcount] at hle
    by_cases hj : j = t
    · rw [if_pos hj] at hle
      exact Or.inr ⟨hj, hle, hp, ht⟩
    · rw [if_neg hj] at hle
      exact Or.inl hle
  | joined hp hlog ht =>
    obtain ⟨time, hlog⟩ := hlog
    have hmine : ∀ e ∈ [(⟨time, t, .asked⟩ : Occurrence.Entry)], e.task = t := by simp
    have hle := begunSince_append_le hmine i j w.log
    rw [List.singleton_append, ← hlog] at hle
    exact Or.inl (by simpa [isBeginOf] using hle)

/-- Whoever is in line was there before, and nobody else is served before it, or has just asked. -/
theorem line_cases (h : Turn t w w') (hi : i ∈ w'.permits.line) :
    (i ∈ w.permits.line ∧ w'.permits.ahead i ⊆ w.permits.ahead i) ∨
      ∀ j, begunSince i j w'.log = 0 := by
  cases h with
  | idle h hg => exact Or.inl (h.line i hi)
  | begun h hp ht => exact Or.inl (h.line i hi)
  | joined hp hlog ht =>
    obtain ⟨time, hlog⟩ := hlog
    rw [hp] at hi ⊢
    rcases List.mem_append.1 hi with hi | hi
    · refine Or.inl ⟨hi, fun x hx => ?_⟩
      obtain ⟨front, back, hline⟩ := List.append_of_mem hi
      unfold Permits.ahead Permits.join at hx
      unfold Permits.ahead
      rw [hline] at hx ⊢
      simp only [List.append_assoc, List.cons_append, List.takeWhile_append] at hx ⊢
      split at hx <;> simp_all
    · rw [List.mem_singleton.1 hi]
      exact Or.inr fun j => by rw [hlog, begunSince_asked]

end Turn

/-! ### Fairness -/

/-- Who is among the few is counted among the many. -/
theorem ite_mem_le {few many : List Nat} (h : few ⊆ many) (j : Nat) :
    (if j ∈ few then 1 else 0) ≤ if j ∈ many then 1 else 0 := by
  by_cases hj : j ∈ few
  · rw [if_pos hj, if_pos (h hj)]
  · rw [if_neg hj]
    exact Nat.zero_le _

/-- **Whoever is served before a task in line has begun nothing since it asked,** and all others one
fetch at most. -/
def Fair (w : World) : Prop := ∀ i ∈ w.permits.line, ∀ j, j ≠ i →
  begunSince i j w.log + (if j ∈ w.permits.ahead i then 1 else 0) ≤ 1

namespace Fair

/-- **Up to the poll in which a permit is handed to it,** a task in line sees one fetch of each
other begin. -/
theorem begunSince_le (h : Fair w) (ht : Turn t w w') (hi : i ∈ w.permits.line) (hj : j ≠ i) :
    begunSince i j w'.log ≤ 1 := by
  have hfair := h i hi j hj
  rcases ht.begunSince_cases i j with hle | ⟨rfl, hle, hfrom, -⟩
  · omega
  · -- It had been handed a permit, since the line is not empty.
    have hgiven : j ∈ w.permits.given := hfrom.resolve_right (List.ne_nil_of_mem hi)
    have hahead : j ∈ w.permits.ahead i := List.mem_append_left _ hgiven
    rw [if_pos hahead] at hfair
    omega

theorem turn (h : Fair w) (ht : Turn t w w') : Fair w' := by
  intro i hi j hj
  rcases ht.line_cases hi with ⟨hi', hsub⟩ | hnone
  · have hfair := h i hi' j hj
    have hmono := ite_mem_le hsub j
    rcases ht.begunSince_cases i j with hle | ⟨rfl, -, -, hout⟩
    · omega
    · have hahead : j ∉ w'.permits.ahead i := fun hmem => hout (by
        rcases List.mem_append.1 hmem with hmem | hmem
        · exact List.mem_append_right _ hmem
        · exact List.mem_append_left _ (List.takeWhile_subset _ hmem))
      rw [if_neg hahead]
      exact h.begunSince_le ht hi' hj
  · rw [hnone]
    split_ifs <;> omega

theorem of_same (h : Fair w) (hpermits : w'.permits = w.permits) (hlog : w'.log = w.log) :
    Fair w' := by
  unfold Fair
  rwa [hpermits, hlog]

theorem run (limit : Nat) (capacity : Option Nat) (providers : List Provider)
    (moves : List Move) : Fair ((World.new limit capacity providers).run moves) := by
  induction moves using List.reverseRecOn with
  | nil =>
    intro i hi
    simp [World.run, World.new, Permits.new] at hi
  | append_singleton moves m ih =>
    have h : Accounts limit none 0 0 ((World.new limit capacity providers).run moves) :=
      (Accounts.initial limit capacity providers).run moves
    rw [run_concat]
    rcases act_cases ((World.new limit capacity providers).run moves) m with
      ⟨t, rfl, -⟩ | houtside
    · exact ih.turn (Turn.poll h t)
    · exact ih.of_same houtside.permits houtside.log

end Fair

/-! ### In the order of the queue -/

/-- **Whoever stands in the queue before a task that was handed a permit has begun one fetch at most
since it asked,** and all others two at most. -/
def Prompt (w : World) : Prop := ∀ i ∈ w.permits.given, ∀ j, j ≠ i →
  begunSince i j w.log + (if j ∈ w.ready.takeWhile (· != i) then 1 else 0) ≤ 2

theorem Prompt.turn {rest : List Nat} {limit : Nat} (h : Prompt w) (hfair : Fair w)
    (haccounts : Accounts limit none 0 0 w) (hready : w.ready = t :: rest)
    (hnodup : w.ready.Nodup) (ht : Turn t w w') (hwakes : Wakes { w with ready := rest } w') :
    Prompt w' := by
  intro i hi j hj
  obtain ⟨hne, hfrom⟩ := ht.of_given hi
  rcases hfrom with hline | hgiven
  · have hle := hfair.begunSince_le ht hline hj
    split_ifs <;> omega
  · have hprompt := h i hgiven j hj
    have hmem : i ∈ rest := by
      have := haccounts.given i hgiven
      rw [hready] at this
      exact (List.mem_cons.1 this).resolve_left hne
    have hqueue : w'.ready.takeWhile (· != i) = rest.takeWhile (· != i) := hwakes.takeWhile_eq hmem
    rw [hready, List.nodup_cons] at hnodup
    rw [hready, List.takeWhile_cons_of_pos (by simpa using Ne.symm hne)] at hprompt
    rw [hqueue]
    rcases ht.begunSince_cases i j with hle | ⟨rfl, hle, -, -⟩
    · have hmono := ite_mem_le (List.subset_cons_self t (rest.takeWhile (· != i))) j
      omega
    · have hout : j ∉ rest.takeWhile (· != i) := fun hin =>
        hnodup.1 (List.takeWhile_subset _ hin)
      rw [if_pos List.mem_cons_self] at hprompt
      rw [if_neg hout]
      omega

theorem nodup_ready (limit : Nat) (capacity : Option Nat) (providers : List Provider)
    (moves : List Move) : ((World.new limit capacity providers).run moves).ready.Nodup := by
  induction moves using List.reverseRecOn with
  | nil => exact List.nodup_nil
  | append_singleton moves m ih =>
    rw [run_concat]
    exact nodup_ready_act ih m

theorem Prompt.run (limit : Nat) (capacity : Option Nat) (providers : List Provider)
    (moves : List Move) (horder : (World.new limit capacity providers).inOrder moves = true) :
    Prompt ((World.new limit capacity providers).run moves) := by
  induction moves using List.reverseRecOn with
  | nil =>
    intro i hi
    simp [World.run, World.new, Permits.new] at hi
  | append_singleton moves m ih =>
    have h : Accounts limit none 0 0 ((World.new limit capacity providers).run moves) :=
      (Accounts.initial limit capacity providers).run moves
    have hnodup := nodup_ready limit capacity providers moves
    rw [inOrder_concat, Bool.and_eq_true] at horder
    have ih := ih horder.1
    rw [run_concat]
    by_cases hm : ∀ t, m ≠ .poll t
    · have houtside := act_outside ((World.new limit capacity providers).run moves) hm
      have hwakes := Wakes.act ((World.new limit capacity providers).run moves) hm
      intro i hi j hj
      rw [houtside.permits] at hi
      rw [houtside.log, hwakes.takeWhile_eq (h.given i hi)]
      exact ih i hi j hj
    · obtain ⟨t, ht⟩ := not_forall.1 hm
      obtain rfl := not_not.1 ht
      obtain ⟨rest, hready⟩ : ∃ rest,
          ((World.new limit capacity providers).run moves).ready = t :: rest := by
        have hhead := horder.2
        simp only [Move.keepsOrder, beq_iff_eq] at hhead
        exact List.head?_eq_some_iff.1 hhead
      have hturn := Turn.poll h t
      have herase : ((World.new limit capacity providers).run moves).ready.erase t = rest := by
        rw [hready, List.erase_cons_head]
      refine ih.turn (Fair.run limit capacity providers moves) h hready hnodup hturn ?_
      rw [← herase]
      exact Wakes.poll _ t

/-! ### The end of the wait -/

theorem exists_worker_of_stageAt {stage : Stage} (h : w.stageAt i = some stage) :
    ∃ k, w.tasks[i]? = some (.worker k) ∧ k.stage = stage := by
  unfold stageAt at h
  rcases htask : w.tasks[i]? with _ | ⟨k | c | ⟨event, stage⟩⟩ <;> simp [htask, Task.worker?] at h
  exact ⟨k, rfl, h⟩

theorem log_pollWorker_given (hopened : w.permits.closed = false) (hnodup : w.permits.line.Nodup)
    (hi : i ∈ w.permits.given) {k : Worker} (hqueued : k.stage = .queued) :
    ∃ more, (w.pollWorker i k).log =
      more ++ ⟨w.now, i, if w.signal.isStop then .ended else .fetchBegan⟩ :: w.log := by
  have hcollect : w.permits.collect? i =
      some { w.permits with given := w.permits.given.erase i } := by
    simp [Permits.collect?, hi]
  unfold World.pollWorker
  split
  · -- The permit is passed on, which is not recorded.
    unfold World.stopWorker
    simp only [hqueued, Permits.leave, hcollect]
    obtain ⟨more, hw⟩ := withPermits_eq w
      ({ w.permits with given := w.permits.given.erase i } : Permits).release.1
      ({ w.permits with given := w.permits.given.erase i } : Permits).release.2
    rw [hw]
    exact ⟨[], rfl⟩
  · simp only [hqueued]
    rw [if_neg (by simp [hopened]), hcollect]
    obtain ⟨more, hlog, -, -⟩ := (Passes.afterBegin (t := i)
      { w with permits := { w.permits with given := w.permits.given.erase i } } hnodup k).log
    exact ⟨more, hlog⟩

/-- **A task that was handed a permit begins its fetch when it is polled next,** or comes to its end
if it was told to stop. -/
theorem log_act_given {limit : Nat} (h : Accounts limit none 0 0 w) (hi : i ∈ w.permits.given) :
    ∃ more, (w.act (.poll i)).log =
      more ++ ⟨w.now, i, if w.signal.isStop then .ended else .fetchBegan⟩ :: w.log := by
  obtain ⟨k, hk, hqueued⟩ := exists_worker_of_stageAt
    ((h.waiting i).1 (List.mem_append_right _ hi)).2
  have hpoll : w.act (.poll i) = { w with ready := w.ready.erase i }.pollWorker i k := by
    change { w with ready := w.ready.erase i }.poll i = _
    unfold World.poll
    simp only [hk, Task.isOver, hqueued, Stage.isOver, Bool.false_eq_true, if_false]
  rw [hpoll]
  exact log_pollWorker_given (w := { w with ready := w.ready.erase i }) h.opened
    (List.nodup_append.1 h.nodup).1 hi hqueued

/-- **Nobody is passed over twice while it waits in line.** Whatever is done, and in whatever order
tasks are polled, a worker that waits for a permit is in line or has been handed one. Up to the
move in which it is handed one, each other worker begins one fetch at most since it asked. From then
on it is among the tasks to poll, and its next poll begins its fetch, or ends it if it was told to
stop. If nobody but the first in the queue is ever polled, each other worker begins two fetches at
most before. -/
theorem overtaken_within_bounds (limit : Nat) (capacity : Option Nat) (providers : List Provider)
    (moves : List Move) :
    let w := (World.new limit capacity providers).run moves
    (∀ i, w.stageAt i = some .queued ↔ i ∈ w.permits.line ∨ i ∈ w.permits.given) ∧
    (∀ i ∈ w.permits.line, ∀ j, j ≠ i → ∀ m, begunSince i j (w.act m).log ≤ 1) ∧
    (∀ i ∈ w.permits.given, i ∈ w.ready ∧ ∃ more, (w.act (.poll i)).log =
      more ++ ⟨w.now, i, if w.signal.isStop then .ended else .fetchBegan⟩ :: w.log) ∧
    ((World.new limit capacity providers).inOrder moves = true →
      ∀ i, w.stageAt i = some .queued → ∀ j, j ≠ i → begunSince i j w.log ≤ 2) := by
  intro w
  have h : Accounts limit none 0 0 w := (Accounts.initial limit capacity providers).run moves
  have hfair : Fair w := Fair.run limit capacity providers moves
  have hserved (i : Nat) : w.stageAt i = some .queued ↔ i ∈ w.permits.line ∨ i ∈ w.permits.given := by
    rw [← List.mem_append, h.waiting i]
    simp
  refine ⟨hserved, fun i hi j hj m => ?_, fun i hi => ⟨h.given i hi, log_act_given h hi⟩,
    fun horder i hi j hj => ?_⟩
  · rcases act_cases w m with ⟨t, rfl, -⟩ | houtside
    · exact hfair.begunSince_le (Turn.poll h t) hi hj
    · rw [houtside.log]
      have := hfair i hi j hj
      omega
  · rcases (hserved i).1 hi with hline | hgiven
    · have := hfair i hline j hj
      omega
    · have hprompt : Prompt w := Prompt.run limit capacity providers moves horder
      have := hprompt i hgiven j hj
      omega

/-- **Two fetches of another can begin before its own,** even if tasks are polled in the order of the
queue: here the fourth worker begins one at the moment 4 and one at 20, while the sixth waits. The
two permits that come back at 20 do it in one poll each, before the fourth worker and the sixth are
polled. The first is handed to the sixth, the second is free, and the fourth is polled before. -/
theorem overtaken_twice :
    ¬ ∀ (limit : Nat) (capacity : Option Nat) (providers : List Provider) (moves : List Move),
      (World.new limit capacity providers).inOrder moves = true →
        let w := (World.new limit capacity providers).run moves
        ∀ i j, j ≠ i → w.stageAt i = some .queued → begunSince i j w.log ≤ 1 := by
  intro hall
  let fetches (delay interval : Nat) : Provider :=
    { name := "", interval := interval, fetch := fun _ => { delay := delay } }
  let providers := [fetches 4 100, fetches 20 100, fetches 20 100, fetches 0 16, fetches 90 100,
    fetches 0 100]
  let moves : List Move := [.start, .poll 0, .poll 1, .poll 2, .poll 3, .poll 4, .poll 5, .fire 4,
    .poll 0, .poll 3, .poll 4, .fire 20, .poll 1, .poll 2, .poll 3]
  have horder : (World.new 3 none providers).inOrder moves = true := by decide
  have hqueued : ((World.new 3 none providers).run moves).stageAt 5 = some .queued := by decide
  have htwice : begunSince 5 3 ((World.new 3 none providers).run moves).log = 2 := by decide
  have hle := hall 3 none providers moves horder 5 3 (by decide) hqueued
  rw [htwice] at hle
  exact absurd hle (by decide)

end World
end StatusRelay
