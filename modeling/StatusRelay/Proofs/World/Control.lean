/-
# Admission control

At every moment each permit is free, or held by a worker that fetches, or given to a worker that
waits and has not been polled since. While a worker is polled it is on its way between these, so
the accounts are kept for all others, and for the one that is polled by two numbers: the permits
that it holds, and the fetches of its own that go on.

| in a poll | permits held | fetches |
| --- | --- | --- |
| it has a permit | 1 | 0 |
| the fetch has begun | 1 | 1 |
| the permit has gone back | 0 | 1 |
| the fetch is over | 0 | 0 |

A permit is free only while nobody waits. So when everything has come to rest, a worker that waits
for a permit stands in line, and all permits are with workers that fetch.
-/

import StatusRelay.Proofs.World.Quiet

namespace StatusRelay

namespace Stage

/-- Whether a fetch goes on. -/
def isFetching : Stage → Bool
  | fetching .. => true
  | _ => false

end Stage

namespace World

/-- The tasks that fetch, one left out. -/
def fetchersBut (who : Option Nat) (w : World) : List Nat :=
  (List.range w.tasks.length).filter fun j =>
    who != some j && (w.stageAt j).any Stage.isFetching

/-- The fetches of a task that go on, for one that is being polled so many. -/
def fetchesOf (who : Option Nat) (began : Nat) (w : World) (j : Nat) : Nat :=
  if who = some j then began else if (w.stageAt j).any Stage.isFetching then 1 else 0

/-- **A record tells of fetches** within a limit: how many go on, and of which tasks. No task does
what follows a fetch while one of its own goes on. -/
structure Told (limit count : Nat) (own : Nat → Nat) (log : List Occurrence.Entry) : Prop where
  balance : inFlight log = count
  own : ∀ j, inFlight (ofTask j log) = own j
  peak : ∀ l, l <:+ log → inFlight l ≤ limit
  after : ∀ e l, e :: l <:+ log → e.what.isAfterFetch = true → inFlight (ofTask e.task l) = 0

/-- **The permits are accounted for,** but for a task that is being polled: it holds so many
permits, and so many of its fetches go on. -/
structure Accounts (limit : Nat) (who : Option Nat) (held began : Nat) (w : World) : Prop where
  opened : w.permits.closed = false
  total : w.permits.free + (fetchersBut who w).length + w.permits.given.length + held = limit
  nodup : (w.permits.line ++ w.permits.given).Nodup
  waiting : ∀ j, j ∈ w.permits.line ++ w.permits.given ↔ who ≠ some j ∧ w.stageAt j = some .queued
  scarce : w.permits.line ≠ [] → w.permits.free = 0
  given : ∀ j ∈ w.permits.given, j ∈ w.ready
  new : ∀ j, who ≠ some j → w.stageAt j = some .ready → j ∈ w.ready
  told : Told limit ((fetchersBut who w).length + began) (fetchesOf who began w) w.log

/-! ### Records -/

namespace Told

variable {limit count : Nat} {own : Nat → Nat} {log : List Occurrence.Entry}

/-- Something more has happened to a task. -/
theorem cons (h : Told limit count own log) (e : Occurrence.Entry) {count' : Nat}
    {own' : Nat → Nat} (hcount : (count' : Int) = e.what.inFlightChange + count)
    (hlimit : count' ≤ limit)
    (hown : ∀ j, (own' j : Int) = (if e.task = j then e.what.inFlightChange else 0) + own j)
    (hafter : e.what.isAfterFetch = true → own e.task = 0) :
    Told limit count' own' (e :: log) where
  balance := by rw [inFlight_cons, h.balance, hcount]
  own := fun j => by rw [inFlight_ofTask_cons, h.own, hown]
  peak := by
    intro l hl
    rcases List.suffix_cons_iff.1 hl with rfl | hl
    · rw [inFlight_cons, h.balance, ← hcount]
      exact_mod_cast hlimit
    · exact h.peak l hl
  after := by
    intro e' l hl he
    rcases List.suffix_cons_iff.1 hl with heq | hl
    · obtain ⟨rfl, rfl⟩ := List.cons.inj heq
      rw [h.own, hafter he]
      rfl
    · exact h.after e' l hl he

/-- Nothing that happened to a task without a fetch began or ended one. -/
theorem append (h : Told limit count own log) {i : Nat} (hi : own i = 0)
    {more : List Occurrence.Entry}
    (hmore : ∀ e ∈ more, e.task = i ∧ e.what.inFlightChange = 0) :
    Told limit count own (more ++ log) := by
  have hlimit : count ≤ limit := by
    have := h.peak log (List.suffix_rfl)
    rw [h.balance] at this
    exact_mod_cast this
  induction more with
  | nil => exact h
  | cons e more ih =>
    obtain ⟨ht, hc⟩ := hmore e List.mem_cons_self
    refine (ih fun e he => hmore e (List.mem_cons_of_mem _ he)).cons e ?_ hlimit ?_ ?_
    · rw [hc, Int.zero_add]
    · intro j
      simp [hc]
    · exact fun _ => ht ▸ hi

end Told

/-! ### Fetchers -/

theorem mem_fetchersBut {who : Option Nat} {w : World} {j : Nat} :
    j ∈ fetchersBut who w ↔ who ≠ some j ∧ (w.stageAt j).any Stage.isFetching = true := by
  unfold fetchersBut
  rw [List.mem_filter, List.mem_range, Bool.and_eq_true, bne_iff_ne]
  refine ⟨fun h => h.2, fun h => ⟨?_, h⟩⟩
  by_contra hlt
  have hnone : w.stageAt j = none := stageAt_of_other fun t ht => by
    rw [List.getElem?_eq_none (Nat.le_of_not_lt hlt)] at ht
    simp at ht
  rw [hnone] at h
  simp at h

theorem nodup_fetchersBut (who : Option Nat) (w : World) : (fetchersBut who w).Nodup :=
  List.Nodup.filter _ List.nodup_range

/-- The tasks that fetch are the others that do, and the one left out if it does. -/
theorem length_fetchersBut (w : World) (i : Nat) : (fetchersBut none w).length =
    (fetchersBut (some i) w).length + if (w.stageAt i).any Stage.isFetching then 1 else 0 := by
  by_cases h : (w.stageAt i).any Stage.isFetching = true
  · have hperm : (fetchersBut none w).Perm (i :: fetchersBut (some i) w) := by
      rw [List.perm_ext_iff_of_nodup (nodup_fetchersBut none w)
        (List.nodup_cons.2 ⟨by simp [mem_fetchersBut], nodup_fetchersBut _ w⟩)]
      intro j
      rw [List.mem_cons, mem_fetchersBut, mem_fetchersBut]
      constructor
      · rintro ⟨-, hj⟩
        by_cases hji : j = i
        · exact Or.inl hji
        · exact Or.inr ⟨by simpa using Ne.symm hji, hj⟩
      · rintro (rfl | ⟨-, hj⟩)
        · exact ⟨by simp, h⟩
        · exact ⟨by simp, hj⟩
    rw [hperm.length_eq, if_pos h, List.length_cons]
  · have heq : fetchersBut none w = fetchersBut (some i) w := by
      unfold fetchersBut
      refine List.filter_congr fun j _ => ?_
      by_cases hji : j = i
      · subst hji
        simp [h]
      · have hne : (some i != some j) = true := by simpa using Ne.symm hji
        rw [hne]
        rfl
    rw [heq, if_neg h, Nat.add_zero]

/-- What is told of all tasks is told of all but one, and of the one. -/
theorem told_iff (limit : Nat) {w : World} {i n : Nat}
    (hn : n = if (w.stageAt i).any Stage.isFetching then 1 else 0) :
    Told limit ((fetchersBut none w).length + 0) (fetchesOf none 0 w) w.log ↔
      Told limit ((fetchersBut (some i) w).length + n) (fetchesOf (some i) n w) w.log := by
  have hown : fetchesOf none 0 w = fetchesOf (some i) n w := by
    funext j
    unfold fetchesOf
    by_cases hj : i = j
    · subst hj
      simp [hn]
    · simp [hj]
  rw [length_fetchersBut w i, hown, hn, Nat.add_zero]

theorem fetchers_eq (w : World) : w.fetchers = fetchersBut none w := by
  unfold fetchers fetchersBut
  refine List.filter_congr fun j _ => ?_
  unfold stageAt
  rcases w.tasks[j]? with _ | t
  · rfl
  · rcases t with k | c | ⟨e, s⟩
    · rcases k with ⟨source, name, interval, run, stage, tally⟩
      cases stage <;> rfl
    · rfl
    · rfl

theorem fetchersBut_congr {i : Nat} {w w' : World} (h : Quiet i w w') :
    fetchersBut (some i) w' = fetchersBut (some i) w := by
  unfold fetchersBut
  rw [h.length]
  refine List.filter_congr fun j _ => ?_
  by_cases hj : j = i
  · simp [hj]
  · rw [stageAt_congr (h.others j hj)]

theorem fetchesOf_congr {i began : Nat} {w w' : World} (h : Quiet i w w') :
    fetchesOf (some i) began w' = fetchesOf (some i) began w := by
  funext j
  unfold fetchesOf
  by_cases hj : j = i
  · simp [hj]
  · rw [stageAt_congr (h.others j hj)]

/-- **A permit that comes back goes to the first in line,** who is polled for it, and is free only
if nobody waits. -/
theorem releasePermit_eq (w : World) :
    (w.permits.line = [] ∧ w.releasePermit =
      { w with permits := { w.permits with free := w.permits.free + 1 } }) ∨
    ∃ j rest more, w.permits.line = j :: rest ∧ w.releasePermit = { w with
        permits := { w.permits with line := rest, given := w.permits.given ++ [j] }
        ready := w.ready ++ more } ∧ j ∈ w.ready ++ more := by
  unfold releasePermit withPermits Permits.release
  rcases hl : w.permits.line with _ | ⟨j, rest⟩
  · have hsame : { w.permits with free := w.permits.free + 1 } =
        (⟨w.permits.free + 1, [], w.permits.given, w.permits.closed⟩ : Permits) := by
      rw [← hl]
    exact Or.inl ⟨rfl, by rw [hsame]; rfl⟩
  · obtain ⟨more, hw, hmem⟩ := wakeAll_eq
      { w with permits := { w.permits with line := rest, given := w.permits.given ++ [j] } } [j]
    exact Or.inr ⟨j, rest, more, rfl, hw, hmem j List.mem_cons_self⟩

namespace Accounts

variable {limit i held began : Nat} {w w' : World}

/-- **The task that is being polled can do what is quiet,** once no fetch of its own goes on or
as long as nothing happens. -/
theorem quiet (h : Accounts limit (some i) held began w) (hq : Quiet i w w')
    (hb : began = 0 ∨ w'.log = w.log) : Accounts limit (some i) held began w' := by
  obtain ⟨more, hlog, hmore⟩ := hq.log
  have hstage : ∀ j, some i ≠ some j → w'.stageAt j = w.stageAt j := fun j hj =>
    stageAt_congr (hq.others j fun hji => hj (congrArg some hji.symm))
  refine ⟨?_, ?_, ?_, fun j => ?_, ?_, fun j hj => ?_, fun j hj hs => ?_, ?_⟩
  · rw [hq.permits]
    exact h.opened
  · rw [hq.permits, fetchersBut_congr hq]
    exact h.total
  · rw [hq.permits]
    exact h.nodup
  · rw [hq.permits, h.waiting]
    exact and_congr_right fun hj => by rw [hstage j hj]
  · rw [hq.permits]
    exact h.scarce
  · rw [hq.permits] at hj
    exact hq.ready (h.given j hj)
  · exact hq.ready (h.new j hj (hstage j hj ▸ hs))
  · rw [fetchersBut_congr hq, fetchesOf_congr hq]
    rcases hb with rfl | hsame
    · rw [hlog]
      exact h.told.append (by simp [fetchesOf]) hmore
    · rw [hsame]
      exact h.told

/-! ### Permits that change hands -/

theorem take (h : Accounts limit (some i) 0 0 w) {permits : Permits}
    (ht : w.permits.take? = some permits) :
    Accounts limit (some i) 1 0 { w with permits := permits } := by
  unfold Permits.take? at ht
  split at ht
  · simp at ht
  · rename_i hfree
    obtain rfl := Option.some.inj ht
    simp only [h.opened, Bool.false_or, beq_iff_eq] at hfree
    have htotal := h.total
    refine ⟨h.opened, ?_, h.nodup, h.waiting, fun hl => absurd (h.scarce hl) hfree, h.given, h.new,
      h.told⟩
    change w.permits.free - 1 + (fetchersBut (some i) w).length + w.permits.given.length + 1 = limit
    omega

/-- A permit that comes back. -/
theorem release (h : Accounts limit (some i) 1 began w) :
    Accounts limit (some i) 0 began w.releasePermit := by
  have htotal := h.total
  rcases releasePermit_eq w with ⟨hl, hw⟩ | ⟨j, rest, more, hl, hw, hmem⟩
  · rw [hw]
    refine ⟨h.opened, ?_, h.nodup, h.waiting, fun hl' => absurd hl hl', h.given, h.new, h.told⟩
    change w.permits.free + 1 + (fetchersBut (some i) w).length + w.permits.given.length + 0 = limit
    omega
  · have hnodup := h.nodup
    have hwaiting := h.waiting
    rw [hl] at hnodup hwaiting
    have hperm : (rest ++ (w.permits.given ++ [j])).Perm (j :: rest ++ w.permits.given) := by
      rw [← List.append_assoc]
      exact List.perm_append_comm
    rw [hw]
    refine ⟨h.opened, ?_, hperm.nodup_iff.2 hnodup, fun x => ?_, fun _ => h.scarce (by simp [hl]),
      fun x hx => ?_, fun x hx hs => List.mem_append_left _ (h.new x hx hs), h.told⟩
    · change w.permits.free + (fetchersBut (some i) w).length + (w.permits.given ++ [j]).length + 0
        = limit
      rw [List.length_append, List.length_singleton]
      omega
    · change x ∈ rest ++ (w.permits.given ++ [j]) ↔ _
      rw [hperm.mem_iff]
      exact hwaiting x
    · rcases List.mem_append.1 hx with hx | hx
      · exact List.mem_append_left _ (h.given x hx)
      · rw [List.mem_singleton.1 hx]
        exact hmem

/-! ### Fetches -/

theorem begin (h : Accounts limit (some i) 1 0 w) :
    Accounts limit (some i) 1 1 (w.note i .fetchBegan) := by
  have htotal := h.total
  refine ⟨h.opened, h.total, h.nodup, h.waiting, h.scarce, h.given, h.new, ?_⟩
  refine h.told.cons _ ?_ ?_ (fun j => ?_) (by simp [Occurrence.isAfterFetch])
  · change (((fetchersBut (some i) w).length + 1 : Nat) : Int) =
      1 + ((fetchersBut (some i) w).length + 0 : Nat)
    omega
  · change (fetchersBut (some i) w).length + 1 ≤ limit
    omega
  · unfold fetchesOf
    by_cases hj : i = j
    · simp [hj, Occurrence.inFlightChange]
    · simp only [Option.some.injEq, hj, if_false, Int.zero_add]
      rfl

/-- A fetch is over, in whatever way. -/
theorem finish (h : Accounts limit (some i) held 1 w) (what : Occurrence)
    (hwhat : what.inFlightChange = -1) (hafter : what.isAfterFetch = false) :
    Accounts limit (some i) held 0 (w.note i what) := by
  have hpeak := h.told.peak w.log List.suffix_rfl
  rw [h.told.balance] at hpeak
  refine ⟨h.opened, h.total, h.nodup, h.waiting, h.scarce, h.given, h.new, ?_⟩
  refine h.told.cons _ ?_ ?_ (fun j => ?_) (by simp [hafter])
  · rw [hwhat]
    push_cast
    change (((fetchersBut (some i) w).length : Nat) : Int) + 0 = _
    omega
  · change (fetchersBut (some i) w).length + 0 ≤ limit
    push_cast at hpeak
    omega
  · unfold fetchesOf
    by_cases hj : i = j
    · simp [hj, hwhat]
    · simp only [Option.some.injEq, hj, if_false, Int.zero_add]
      rfl

/-! ### The beginning and the end of a poll -/

/-- A task that is polled leaves the queue. While a fetch of its own goes on it has a permit. -/
theorem enter {n : Nat} (h : Accounts limit none 0 0 w) (hq : w.stageAt i ≠ some .queued)
    (hn : n = if (w.stageAt i).any Stage.isFetching then 1 else 0) :
    Accounts limit (some i) n n { w with ready := w.ready.erase i } := by
  have hlen := length_fetchersBut w i
  rw [← hn] at hlen
  have hout : i ∉ w.permits.line ++ w.permits.given := fun hm => hq ((h.waiting i).1 hm).2
  refine ⟨h.opened, ?_, h.nodup, fun j => ?_, h.scarce, fun j hj => ?_, fun j hj hs => ?_, ?_⟩
  · have := h.total
    change w.permits.free + (fetchersBut (some i) w).length + w.permits.given.length + n = limit
    omega
  · rw [h.waiting]
    constructor
    · rintro ⟨-, hs⟩
      exact ⟨fun hji => hq (Option.some.inj hji ▸ hs), hs⟩
    · rintro ⟨-, hs⟩
      exact ⟨by simp, hs⟩
  · have hne : j ≠ i := fun hji => hout (List.mem_append_right _ (hji ▸ hj))
    exact (List.mem_erase_of_ne hne).2 (h.given j hj)
  · have hne : j ≠ i := fun hji => hj (congrArg some hji.symm)
    exact (List.mem_erase_of_ne hne).2 (h.new j (by simp) hs)
  · exact (told_iff limit hn).1 h.told

theorem enter_at {n : Nat} {stage : Stage} (h : Accounts limit none 0 0 w)
    (hs : w.stageAt i = some stage) (hq : stage ≠ .queued)
    (hn : n = if stage.isFetching then 1 else 0) :
    Accounts limit (some i) n n { w with ready := w.ready.erase i } := by
  refine h.enter ?_ ?_
  · rw [hs]
    simpa using hq
  · rw [hs]
    exact hn

/-- **A task that comes to rest** has a permit exactly if a fetch of its own goes on. -/
theorem rest {n : Nat} (h : Accounts limit (some i) n n w) (hq : w.stageAt i ≠ some .queued)
    (hr : w.stageAt i = some .ready → i ∈ w.ready)
    (hn : n = if (w.stageAt i).any Stage.isFetching then 1 else 0) : Accounts limit none 0 0 w := by
  have hlen := length_fetchersBut w i
  rw [← hn] at hlen
  refine ⟨h.opened, ?_, h.nodup, fun j => ?_, h.scarce, h.given, fun j _ hs => ?_, ?_⟩
  · have := h.total
    omega
  · rw [h.waiting]
    constructor
    · rintro ⟨-, hs⟩
      exact ⟨by simp, hs⟩
    · rintro ⟨-, hs⟩
      exact ⟨fun hji => hq (Option.some.inj hji ▸ hs), hs⟩
  · by_cases hj : j = i
    · subst hj
      exact hr hs
    · exact h.new j (fun hji => hj (Option.some.inj hji).symm) hs
  · exact (told_iff limit hn).2 h.told

theorem notMem_given (h : Accounts limit none 0 0 w) {stage : Stage}
    (hs : w.stageAt i = some stage) (hq : stage ≠ .queued) : i ∉ w.permits.given := by
  intro hm
  have hwaits := ((h.waiting i).1 (List.mem_append_right _ hm)).2
  rw [hs] at hwaits
  exact hq (Option.some.inj hwaits)

/-- A task that is polled for nothing. -/
theorem ignore (h : Accounts limit none 0 0 w) (hg : i ∉ w.permits.given)
    (hr : w.stageAt i ≠ some .ready) :
    Accounts limit none 0 0 { w with ready := w.ready.erase i } := by
  refine ⟨h.opened, h.total, h.nodup, h.waiting, h.scarce, fun j hj => ?_, fun j hj hs => ?_, h.told⟩
  · have hne : j ≠ i := fun hji => hg (hji ▸ hj)
    exact (List.mem_erase_of_ne hne).2 (h.given j hj)
  · have hne : j ≠ i := fun hji => hr (hji ▸ hs)
    exact (List.mem_erase_of_ne hne).2 (h.new j hj hs)

/-- A task in line has no fetch, so the others are all that do. -/
theorem leave_line (h : Accounts limit none 0 0 w) (hq : w.stageAt i = some .queued)
    (permits : Permits) (held : Nat) (hclosed : permits.closed = false)
    (htotal : permits.free + permits.given.length + held =
      w.permits.free + w.permits.given.length)
    (hperm : (w.permits.line ++ w.permits.given).Perm (i :: (permits.line ++ permits.given)))
    (hscarce : permits.line ≠ [] → permits.free = 0)
    (hgiven : ∀ j ∈ permits.given, j ∈ w.permits.given) :
    Accounts limit (some i) held 0 { w with permits := permits, ready := w.ready.erase i } := by
  have hlen := length_fetchersBut w i
  rw [hq] at hlen
  have hnodup := List.nodup_cons.1 (hperm.nodup_iff.1 h.nodup)
  refine ⟨hclosed, ?_, hnodup.2, fun j => ?_, hscarce, fun j hj => ?_, fun j hj hs => ?_, ?_⟩
  · have := h.total
    change permits.free + (fetchersBut (some i) w).length + permits.given.length + held = limit
    simp only [Option.any_some, Stage.isFetching, Bool.false_eq_true, if_false] at hlen
    omega
  · change j ∈ permits.line ++ permits.given ↔ some i ≠ some j ∧ w.stageAt j = some .queued
    have hmem := (hperm.mem_iff (a := j)).symm.trans (h.waiting j)
    rw [List.mem_cons] at hmem
    constructor
    · intro hj
      exact ⟨fun hij => hnodup.1 (Option.some.inj hij ▸ hj), (hmem.1 (Or.inr hj)).2⟩
    · rintro ⟨hij, hs⟩
      exact (hmem.2 ⟨by simp, hs⟩).resolve_left fun hji => hij (congrArg some hji.symm)
  · have hne : j ≠ i := fun hji => hnodup.1 (hji ▸ List.mem_append_right _ hj)
    exact (List.mem_erase_of_ne hne).2 (h.given j (hgiven j hj))
  · have hne : j ≠ i := fun hji => hj (congrArg some hji.symm)
    exact (List.mem_erase_of_ne hne).2 (h.new j (by simp) hs)
  · have hn : 0 = if (w.stageAt i).any Stage.isFetching then 1 else 0 := by
      rw [hq]
      rfl
    exact (told_iff limit hn).1 h.told

end Accounts

/-! ### Polls -/

namespace Accounts

variable {limit i : Nat} {w : World}

/-- A worker that is past its fetch comes to rest without a permit. -/
theorem rest_after (h : Accounts limit (some i) 0 0 w) {stage : Stage}
    (hs : w.stageAt i = some stage) (hready : stage ≠ .ready) (hqueued : stage ≠ .queued)
    (hfetching : stage.isFetching = false) : Accounts limit none 0 0 w := by
  refine h.rest ?_ ?_ ?_
  · rw [hs]
    simpa using hqueued
  · rw [hs]
    exact fun hr => absurd (Option.some.inj hr) hready
  · rw [hs]
    simp [hfetching]

theorem sift (h : Accounts limit (some i) 0 0 w) (hi : i < w.tasks.length) (k : Worker)
    (found : List Event) : Accounts limit none 0 0 (w.sift i k found) := by
  have hq := h.quiet (Quiet.sift w k found) (Or.inl rfl)
  rcases stageAt_sift hi k found with ⟨rest, hs⟩ | ⟨due, hs⟩
  · exact hq.rest_after hs (by simp) (by simp) rfl
  · exact hq.rest_after hs (by simp) (by simp) rfl

theorem publish (h : Accounts limit (some i) 0 0 w) (hi : i < w.tasks.length) (k : Worker)
    (pending : List Event) : Accounts limit none 0 0 (w.publish i k pending) := by
  have hq := h.quiet (Quiet.publish w k pending) (Or.inl rfl)
  rcases stageAt_publish hi k pending with ⟨rest, hs⟩ | ⟨due, hs⟩
  · exact hq.rest_after hs (by simp) (by simp) rfl
  · exact hq.rest_after hs (by simp) (by simp) rfl

theorem endWorker (h : Accounts limit (some i) 0 0 w) (hi : i < w.tasks.length) (k : Worker)
    {stage : Stage} (hstage : stage = .cancelled ∨ stage = .died) :
    Accounts limit none 0 0 (w.endWorker i k stage) := by
  have hq := h.quiet (Quiet.endWorker w k stage) (Or.inl rfl)
  refine hq.rest_after (stageAt_endWorker hi k stage) ?_ ?_ ?_
  · rcases hstage with rfl | rfl <;> simp
  · rcases hstage with rfl | rfl <;> simp
  · rcases hstage with rfl | rfl <;> rfl

theorem finishFetch (h : Accounts limit (some i) 1 1 w) (hi : i < w.tasks.length) (k : Worker)
    (since : Nat) (outcome : FetchOutcome) :
    Accounts limit none 0 0 (w.finishFetch i k since outcome) := by
  have hf := h.release.finish (.fetchEnded k.name (w.now - since) outcome) rfl rfl
  have hi' : i < (w.releasePermit.note i
      (.fetchEnded k.name (w.now - since) outcome)).tasks.length := by
    change i < w.releasePermit.tasks.length
    rw [tasks_releasePermit]
    exact hi
  unfold World.finishFetch
  cases outcome with
  | events es => exact hf.sift hi' _ _
  | crashed crash => exact hf.sift hi' _ _
  | deadly => exact hf.endWorker hi' _ (Or.inr rfl)

theorem beginFetch (h : Accounts limit (some i) 1 0 w) (hi : i < w.tasks.length) (k : Worker) :
    Accounts limit none 0 0 (w.beginFetch i k) := by
  have hb := h.begin
  unfold World.beginFetch
  simp only
  split
  · exact hb.finishFetch hi _ _ _
  · rename_i p hp
    have hq : Quiet i (w.note i .fetchBegan) { w.note i .fetchBegan with
        providers := (w.note i .fetchBegan).providers.set k.source
          { p with calls := p.calls + 1 } } :=
      Quiet.of_same rfl rfl rfl fun _ h => h
    have hc := hb.quiet hq (Or.inr rfl)
    split
    · exact hc.finishFetch hi _ _ _
    · -- The fetch takes its time: the worker rests with its permit.
      refine (hc.quiet ((Quiet.put _ _).trans (Quiet.setTimer _ _ _)) (Or.inr ?_)).rest
        (n := 1) ?_ ?_ ?_
      · rw [log_setTimer]
        rfl
      · rw [stageAt_setTimer, stageAt_put (by exact hi)]
        simp
      · rw [stageAt_setTimer, stageAt_put (by exact hi)]
        simp
      · rw [stageAt_setTimer, stageAt_put (by exact hi)]
        rfl

/-- A task that finds no permit free joins the line. -/
theorem join (h : Accounts limit (some i) 0 0 w) (hs : w.stageAt i = some .queued)
    (hfree : w.permits.free = 0) :
    Accounts limit none 0 0 { w with permits := w.permits.join i } := by
  have hn : 0 = if (w.stageAt i).any Stage.isFetching then 1 else 0 := by
    rw [hs]
    rfl
  have hlen := length_fetchersBut w i
  rw [← hn] at hlen
  have hperm : (w.permits.line ++ [i] ++ w.permits.given).Perm
      (i :: (w.permits.line ++ w.permits.given)) := by
    rw [List.append_assoc]
    exact List.perm_middle
  have hout : i ∉ w.permits.line ++ w.permits.given := fun hm => ((h.waiting i).1 hm).1 rfl
  refine ⟨h.opened, ?_, hperm.nodup_iff.2 (List.nodup_cons.2 ⟨hout, h.nodup⟩), fun j => ?_,
    fun _ => hfree, h.given, fun j _ hr => h.new j ?_ hr, (told_iff limit hn).2 h.told⟩
  · have := h.total
    change w.permits.free + (fetchersBut none w).length + w.permits.given.length + 0 = limit
    omega
  · change j ∈ w.permits.line ++ [i] ++ w.permits.given ↔ none ≠ some j ∧ w.stageAt j = some .queued
    rw [hperm.mem_iff, List.mem_cons, h.waiting]
    constructor
    · rintro (rfl | ⟨-, hj⟩)
      · exact ⟨by simp, hs⟩
      · exact ⟨by simp, hj⟩
    · rintro ⟨-, hj⟩
      by_cases hji : j = i
      · exact Or.inl hji
      · exact Or.inr ⟨fun hij => hji (Option.some.inj hij).symm, hj⟩
  · intro hij
    obtain rfl := Option.some.inj hij
    have hr : w.stageAt i = some .ready := hr
    rw [hs] at hr
    simp at hr

theorem askPermit (h : Accounts limit (some i) 0 0 w) (hi : i < w.tasks.length) (k : Worker) :
    Accounts limit none 0 0 (w.askPermit i k) := by
  have ha := h.quiet (Quiet.note w .asked rfl) (Or.inl rfl)
  unfold World.askPermit
  simp only [ha.opened, Bool.false_eq_true, if_false]
  split
  · rename_i permits ht
    exact (ha.take ht).beginFetch hi k
  · rename_i ht
    have hfree : (w.note i .asked).permits.free = 0 := by
      unfold Permits.take? at ht
      rw [ha.opened] at ht
      simpa using ht
    exact (ha.quiet (Quiet.put _ _) (Or.inl rfl)).join (stageAt_put (by exact hi) _) hfree

/-- A worker that waits collects the permit that it has been given. -/
theorem collect (h : Accounts limit none 0 0 w) (hs : w.stageAt i = some .queued)
    {permits : Permits} (hc : w.permits.collect? i = some permits) :
    Accounts limit (some i) 1 0 { w with permits := permits, ready := w.ready.erase i } := by
  unfold Permits.collect? at hc
  split at hc
  · rename_i hg
    obtain rfl := Option.some.inj hc
    have hmem : i ∈ w.permits.given := by simpa using hg
    have hlen := List.length_erase_of_mem hmem
    have hpos := List.length_pos_of_mem hmem
    refine h.leave_line hs _ 1 h.opened ?_ ?_ h.scarce fun j hj => List.mem_of_mem_erase hj
    · change w.permits.free + (w.permits.given.erase i).length + 1 = _
      omega
    · exact ((List.perm_cons_erase hmem).append_left _).trans List.perm_middle
  · simp at hc

theorem notMem_given_of_collect? {permits : Permits} (hc : permits.collect? i = none) :
    i ∉ permits.given := by
  unfold Permits.collect? at hc
  split at hc
  · simp at hc
  · rename_i hg
    simpa using hg

/-- A worker that is stopped gives its permit back, or the place in line. -/
theorem stopWorker (h : Accounts limit none 0 0 w) {k : Worker}
    (hk : w.tasks[i]? = some (.worker k)) :
    Accounts limit none 0 0 ({ w with ready := w.ready.erase i }.stopWorker i k) := by
  have hi : i < w.tasks.length := (List.getElem?_eq_some_iff.1 hk).1
  have hs := stageAt_of_worker hk
  unfold World.stopWorker
  rcases hstage : k.stage with _ | _ | ⟨since, due, outcome⟩ | pending | due | _ | _
  case queued =>
    rw [hstage] at hs
    rcases hc : w.permits.collect? i with _ | permits
    · -- It is still in line.
      have hmem : i ∈ w.permits.line :=
        (List.mem_append.1 ((h.waiting i).2 ⟨by simp, hs⟩)).resolve_right
          (notMem_given_of_collect? hc)
      have hl := h.leave_line hs { w.permits with line := w.permits.line.erase i } 0
        h.opened rfl ((List.perm_cons_erase hmem).append_right _)
        (fun hne => h.scarce fun hnil => hne (by rw [hnil]; rfl)) fun _ hj => hj
      simp only [Permits.leave, hc]
      exact hl.endWorker hi k (Or.inl rfl)
    · -- It has been given a permit, which is passed on.
      have hr := (h.collect hs hc).release
      simp only [Permits.leave, hc]
      refine hr.endWorker ?_ k (Or.inl rfl)
      rw [tasks_releasePermit]
      exact hi
  case fetching =>
    rw [hstage] at hs
    have he := h.enter_at (n := 1) hs (by simp) rfl
    refine (he.release.finish .fetchAbandoned rfl rfl).endWorker ?_ k (Or.inl rfl)
    change i < ({ w with ready := w.ready.erase i } : World).releasePermit.tasks.length
    rw [tasks_releasePermit]
    exact hi
  case publishing =>
    rw [hstage] at hs
    have he := h.enter_at (n := 0) hs (by simp) rfl
    have hq : Quiet i { w with ready := w.ready.erase i } _ := Quiet.cancelPublish _
    refine (he.quiet hq (Or.inl rfl)).endWorker ?_ k (Or.inl rfl)
    rw [hq.length]
    exact hi
  all_goals
    rw [hstage] at hs
    have he := h.enter_at (n := 0) hs (by simp) rfl
    exact he.endWorker hi k (Or.inl rfl)

theorem pollWorker (h : Accounts limit none 0 0 w) {k : Worker}
    (hk : w.tasks[i]? = some (.worker k)) (hover : k.stage.isOver = false) :
    Accounts limit none 0 0 ({ w with ready := w.ready.erase i }.pollWorker i k) := by
  have hi : i < w.tasks.length := (List.getElem?_eq_some_iff.1 hk).1
  have hs := stageAt_of_worker hk
  unfold World.pollWorker
  split
  · exact h.stopWorker hk
  · rcases hstage : k.stage with _ | _ | ⟨since, due, outcome⟩ | pending | due | _ | _
    all_goals rw [hstage] at hs hover
    case ready =>
      exact (h.enter_at (n := 0) hs (by simp) rfl).askPermit hi k
    case queued =>
      simp only [h.opened, Bool.false_eq_true, if_false]
      split
      · rename_i permits hc
        exact (h.collect hs hc).beginFetch hi k
      · rename_i hc
        exact h.ignore (notMem_given_of_collect? hc) (by simp [hs])
    case fetching =>
      simp only
      split
      · exact (h.enter_at (n := 1) hs (by simp) rfl).finishFetch hi k _ _
      · exact h.ignore (h.notMem_given hs (by simp)) (by simp [hs])
    case publishing => exact (h.enter_at (n := 0) hs (by simp) rfl).publish hi k _
    case sleeping =>
      simp only
      split
      · exact (h.enter_at (n := 0) hs (by simp) rfl).askPermit hi k
      · exact h.ignore (h.notMem_given hs (by simp)) (by simp [hs])
    case cancelled => simp [Stage.isOver] at hover
    case died => simp [Stage.isOver] at hover

/-- What is no worker does not touch the permits. -/
theorem pollOther (h : Accounts limit none 0 0 w) (hs : w.stageAt i = none) {w' : World}
    (hq : Quiet i { w with ready := w.ready.erase i } w') (hs' : w'.stageAt i = none) :
    Accounts limit none 0 0 w' := by
  have he := h.enter (i := i) (n := 0) (by simp [hs]) (by simp [hs])
  exact (he.quiet hq (Or.inl rfl)).rest (by simp [hs']) (by simp [hs']) (by simp [hs'])

theorem poll (h : Accounts limit none 0 0 w) (i : Nat) :
    Accounts limit none 0 0 ({ w with ready := w.ready.erase i }.poll i) := by
  have hrefl : w.stageAt i = none →
      Accounts limit none 0 0 { w with ready := w.ready.erase i } := fun hs =>
    h.pollOther hs (Quiet.refl i _) hs
  unfold World.poll
  rcases ht : w.tasks[i]? with _ | t
  · exact hrefl (stageAt_of_other fun t h => by simp [ht] at h)
  · have hother : t.worker? = none → w.stageAt i = none := fun hw =>
      stageAt_of_other fun t' ht' => by rwa [← Option.some.inj (ht.symm.trans ht')]
    simp only
    split
    · rename_i hover
      rcases t with k | c | ⟨event, stage⟩
      · have hs := stageAt_of_worker ht
        have hk : k.stage.isOver = true := hover
        refine h.ignore (h.notMem_given hs fun hq => ?_) fun hr => ?_
        · simp [hq, Stage.isOver] at hk
        · rw [hs] at hr
          simp [Option.some.inj hr, Stage.isOver] at hk
      · exact hrefl (hother rfl)
      · exact hrefl (hother rfl)
    · rename_i hover
      rcases t with k | c | ⟨event, stage⟩
      · exact h.pollWorker ht (by simpa [Task.isOver] using hover)
      · have hs := hother rfl
        have hidle : Idle i { w with ready := w.ready.erase i } _ := Idle.pollConsumer _ c
        exact h.pollOther hs hidle.toQuiet (hidle.stage hs)
      · have hs := hother rfl
        exact h.pollOther hs (Quiet.pollPublisher _ event stage)
          (stageAt_pollPublisher (w := { w with ready := w.ready.erase i }) hs event stage)

/-! ### Moves -/

/-- What has to do with no task. -/
theorem of_same (h : Accounts limit none 0 0 w) {w' : World} (hpermits : w'.permits = w.permits)
    (htasks : w'.tasks = w.tasks) (hlog : w'.log = w.log) (hready : w.ready ⊆ w'.ready) :
    Accounts limit none 0 0 w' := by
  have hstage : w'.stageAt = w.stageAt := by
    funext j
    exact stageAt_congr (by rw [htasks])
  have hfetchers : fetchersBut none w' = fetchersBut none w := by
    unfold fetchersBut
    rw [htasks, hstage]
  have hfetches : fetchesOf none 0 w' = fetchesOf none 0 w := by
    funext j
    unfold fetchesOf
    rw [hstage]
  refine ⟨?_, ?_, ?_, fun j => ?_, ?_, fun j hj => ?_, fun j hj hs => ?_, ?_⟩
  · rw [hpermits]
    exact h.opened
  · rw [hpermits, hfetchers]
    exact h.total
  · rw [hpermits]
    exact h.nodup
  · rw [hpermits, hstage]
    exact h.waiting j
  · rw [hpermits]
    exact h.scarce
  · rw [hpermits] at hj
    exact hready (h.given j hj)
  · rw [hstage] at hs
    exact hready (h.new j hj hs)
  · rw [hlog, hfetchers, hfetches]
    exact h.told

theorem wakeAll (h : Accounts limit none 0 0 w) (tasks : List Nat) :
    Accounts limit none 0 0 (w.wakeAll tasks) := by
  obtain ⟨more, hw, -⟩ := wakeAll_eq w tasks
  rw [hw]
  exact h.of_same rfl rfl rfl (List.subset_append_left _ _)

theorem withBus (h : Accounts limit none 0 0 w) (bus : Bus) (parties : List Wake) :
    Accounts limit none 0 0 (w.withBus bus parties) := by
  obtain ⟨more, hw⟩ := withBus_eq w bus parties
  rw [hw]
  exact h.of_same rfl rfl rfl (List.subset_append_left _ _)

/-- A task that is new has not begun. -/
theorem spawn (h : Accounts limit none 0 0 w) {t : Task}
    (ht : ∀ k, t.worker? = some k → k.stage = .ready) : Accounts limit none 0 0 (w.spawn t) := by
  have hstage := stageAt_spawn_new w ht
  have hany : ∀ j, ((w.spawn t).stageAt j).any Stage.isFetching =
      (w.stageAt j).any Stage.isFetching := by
    intro j
    rcases hstage j with hs | ⟨-, hs, hs'⟩
    · rw [hs]
    · rw [hs, hs']
      rfl
  obtain ⟨more, hw, hmem⟩ := spawn_eq w t
  have hfetchers : fetchersBut none (w.spawn t) = fetchersBut none w := by
    unfold fetchersBut
    simp only [hany]
    rw [hw]
    simp only [List.length_append, List.length_singleton, List.range_succ, List.filter_append]
    simp [stageAt_length]
  have hfetches : fetchesOf none 0 (w.spawn t) = fetchesOf none 0 w := by
    funext j
    unfold fetchesOf
    rw [hany]
  have hpermits : (w.spawn t).permits = w.permits := by
    rw [hw]
  have hlog : (w.spawn t).log = w.log := by
    rw [hw]
  refine ⟨?_, ?_, ?_, fun j => ?_, ?_, fun j hj => ?_, fun j hj hr => ?_, ?_⟩
  · rw [hpermits]
    exact h.opened
  · rw [hpermits, hfetchers]
    exact h.total
  · rw [hpermits]
    exact h.nodup
  · rw [hpermits, h.waiting]
    rcases hstage j with hs | ⟨-, hs, hs'⟩
    · rw [hs]
    · simp [hs, hs']
  · rw [hpermits]
    exact h.scarce
  · rw [hpermits] at hj
    rw [hw]
    exact List.mem_append_left _ (h.given j hj)
  · rw [hw]
    rcases hstage j with hs | ⟨rfl, -, -⟩
    · rw [hs] at hr
      exact List.mem_append_left _ (h.new j hj hr)
    · exact hmem
  · rw [hlog, hfetchers, hfetches]
    exact h.told

theorem start (h : Accounts limit none 0 0 w) : Accounts limit none 0 0 w.start := by
  refine start_induction (P := Accounts limit none 0 0) ?_ fun w k hk h => h.spawn ?_
  · exact h.of_same rfl rfl rfl fun _ hx => hx
  · intro k' hk'
    obtain rfl := Option.some.inj hk'
    exact hk

/-- **Every move keeps the accounts.** -/
theorem act (h : Accounts limit none 0 0 w) (m : Move) : Accounts limit none 0 0 (w.act m) := by
  cases m with
  | start => exact h.start
  | poll task => exact h.poll task
  | clock moment => exact h.of_same rfl rfl rfl fun _ hx => hx
  | fire moment =>
    have ht : Accounts limit none 0 0
        { w with now := moment, timers := w.timers.filter fun t => moment < t.1 } :=
      h.of_same rfl rfl rfl fun _ hx => hx
    exact ht.wakeAll _
  | send value =>
    have hs : Accounts limit none 0 0 { w with signal.value := value } :=
      h.of_same rfl rfl rfl fun _ hx => hx
    exact hs.wakeAll _
  | dropSignal =>
    have hs : Accounts limit none 0 0 { w with signal.isHeld := false } :=
      h.of_same rfl rfl rfl fun _ hx => hx
    exact hs.wakeAll _
  | subscribe =>
    simp only [World.act, World.subscribe?]
    rcases w.bus.subscribe? with _ | ⟨queue, bus⟩
    · exact h
    · exact h.of_same rfl rfl rfl fun _ hx => hx
  | unsubscribe queue => exact h.withBus _ _
  | take queue => exact h.withBus _ _
  | drain queue => exact h.withBus _ _
  | consume sink queue => exact h.spawn fun k hk => by simp [Task.worker?] at hk
  | post event => exact h.spawn fun k hk => by simp [Task.worker?] at hk
  | offer key => exact h.of_same rfl rfl rfl fun _ hx => hx
  | closeBus => exact h.withBus _ _

theorem initial (limit : Nat) (capacity : Option Nat) (providers : List Provider) :
    Accounts limit none 0 0 (World.new limit capacity providers) := by
  refine ⟨rfl, rfl, List.nodup_nil, ?_, ?_, ?_, ?_, ⟨rfl, fun j => ?_, ?_, ?_⟩⟩
  · simp [World.new, Permits.new, stageAt]
  · simp [World.new, Permits.new]
  · simp [World.new, Permits.new]
  · simp [World.new, stageAt]
  · simp [fetchesOf, World.new, stageAt, ofTask, inFlight]
  · intro l hl
    obtain rfl := List.suffix_nil.1 hl
    simp [inFlight]
  · intro e l hl
    simp [World.new] at hl

/-- **The permits are accounted for at every moment.** -/
theorem run (h : Accounts limit none 0 0 w) (moves : List Move) :
    Accounts limit none 0 0 (w.run moves) := by
  induction moves generalizing w with
  | nil => exact h
  | cons m moves ih => exact ih (h.act m)

end Accounts

/-! ### What the accounts come to -/

/-- The tasks that hold a permit: those that fetch, and those that have been given one while they
waited. -/
def holders (w : World) : List Nat := w.fetchers ++ w.permits.given

theorem mem_fetchers {w : World} {i : Nat} :
    i ∈ w.fetchers ↔ ∃ stage, w.stageAt i = some stage ∧ stage.isFetching = true := by
  rw [fetchers_eq, mem_fetchersBut]
  rcases w.stageAt i with _ | stage <;> simp

namespace Accounts

variable {limit : Nat} {w : World}

theorem peak_le (h : Accounts limit none 0 0 w) : w.peak ≤ limit := by
  have hp : Occurrence.peak 0 0 w.log.reverse ≤ limit := by
    refine World.peak_le (by omega) fun l hl => ?_
    have hsuffix : l.reverse <:+ w.log := by
      rw [← List.reverse_prefix, List.reverse_reverse]
      exact hl
    have := h.told.peak _ hsuffix
    rw [inFlight_reverse] at this
    omega
  unfold World.peak
  omega

theorem nodup_holders (h : Accounts limit none 0 0 w) : w.holders.Nodup := by
  unfold holders
  refine List.Nodup.append ?_ (List.nodup_append.1 h.nodup).2.1 fun i hi hg => ?_
  · rw [fetchers_eq]
    exact nodup_fetchersBut none w
  · obtain ⟨stage, hs, hf⟩ := mem_fetchers.1 hi
    have hq := ((h.waiting i).1 (List.mem_append_right _ hg)).2
    rw [hs] at hq
    rw [Option.some.inj hq] at hf
    simp [Stage.isFetching] at hf

/-- Who waits when everything has come to rest, waits in line, and no permit is free or on its way
to anybody. -/
theorem full (h : Accounts limit none 0 0 w) (hrest : w.ready = []) {i : Nat}
    (hi : w.stageAt i = some .ready ∨ w.stageAt i = some .queued) : w.fetchers.length = limit := by
  have hgiven : w.permits.given = [] := by
    refine List.eq_nil_iff_forall_not_mem.2 fun j hj => ?_
    have := h.given j hj
    simp [hrest] at this
  rcases hi with hi | hi
  · have := h.new i (by simp) hi
    simp [hrest] at this
  · have hmem := (h.waiting i).2 ⟨by simp, hi⟩
    rw [hgiven, List.append_nil] at hmem
    have hfree := h.scarce (List.ne_nil_of_mem hmem)
    have htotal := h.total
    rw [hgiven, hfree] at htotal
    rw [fetchers_eq]
    simpa using htotal

/-- When all workers have come to their end all permits are free. -/
theorem all_free (h : Accounts limit none 0 0 w)
    (hover : ∀ i stage, w.stageAt i = some stage → stage.isOver = true) :
    w.permits.free = limit := by
  have hgiven : w.permits.given = [] := by
    refine List.eq_nil_iff_forall_not_mem.2 fun j hj => ?_
    have := hover j _ ((h.waiting j).1 (List.mem_append_right _ hj)).2
    simp [Stage.isOver] at this
  have hfetchers : fetchersBut none w = [] := by
    rw [← fetchers_eq]
    refine List.eq_nil_iff_forall_not_mem.2 fun j hj => ?_
    obtain ⟨stage, hs, hf⟩ := mem_fetchers.1 hj
    have := hover j _ hs
    cases stage <;> simp_all [Stage.isOver, Stage.isFetching]
  have htotal := h.total
  rw [hgiven, hfetchers] at htotal
  simpa using htotal

end Accounts

/-- **Admission control.** However the tasks are polled, and whatever the fetches come to, every
permit is free, or held by a worker whose fetch goes on, or given to one that waits and has not been
polled since. So no more fetches go on than there are permits, now or ever before, and what follows
a fetch is done without a permit. When everything has come to rest a worker waits only if as many
fetches go on as there are permits, and when all workers have come to their end all are free. -/
theorem permits_accounted (limit : Nat) (capacity : Option Nat) (providers : List Provider)
    (moves : List Move) :
    let w := (World.new limit capacity providers).run moves
    w.permits.free + w.fetchers.length + w.permits.given.length = limit ∧
    w.holders.Nodup ∧
    (∀ i, i ∈ w.fetchers ↔ ∃ stage, w.stageAt i = some stage ∧ stage.isFetching = true) ∧
    (∀ i ∈ w.permits.given, w.stageAt i = some .queued) ∧
    (inFlight w.log = w.fetchers.length ∧ w.peak ≤ limit) ∧
    (∀ e earlier, e :: earlier <:+ w.log → e.what.isAfterFetch = true →
      inFlight (ofTask e.task earlier) = 0) ∧
    (w.ready = [] → (∃ i, w.stageAt i = some .ready ∨ w.stageAt i = some .queued) →
      w.fetchers.length = limit) ∧
    ((∀ i stage, w.stageAt i = some stage → stage.isOver = true) → w.permits.free = limit) := by
  intro w
  have h : Accounts limit none 0 0 w := (Accounts.initial limit capacity providers).run moves
  refine ⟨?_, h.nodup_holders, fun i => mem_fetchers, fun i hi => ?_, ⟨?_, h.peak_le⟩,
    h.told.after, ?_, h.all_free⟩
  · rw [fetchers_eq]
    exact h.total
  · exact ((h.waiting i).1 (List.mem_append_right _ hi)).2
  · rw [fetchers_eq]
    exact h.told.balance
  · rintro hrest ⟨i, hi⟩
    exact h.full hrest hi

/-- Of two workers with one permit the first fetches, and the second waits in line. -/
example :
    let provider : Provider := { name := "a", interval := 5, fetch := fun _ => { delay := 3 } }
    let w := (World.new 1 none [provider, provider]).run [.start, .poll 0, .poll 1]
    (w.fetchers, w.permits.line, w.permits.free) = ([0], [1], 0) := by decide

end World
end StatusRelay
