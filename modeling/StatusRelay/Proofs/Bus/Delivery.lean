/-
# Every event once, in one order

A session is `Faithful` at every moment: what each subscription has received, followed by what is
in its queue, is what is due to it. The invariant that carries this has three layers:

* `Line`: the past is ordered, and the publishes under way stand in it with their numbers, in the
  order of the bus;
* `AtGate`: of the publishes under way only the one inside the gate has entered, and the targets
  of its reservation are the subscriptions that are older than its entry;
* `Views`: what subscribers see agrees with the past.

Only a drive needs the second layer. It has two steps: the publish enters, if the gate was only
granted to it, and then it waits or delivers.
-/

import StatusRelay.Proofs.Bus.Contents
import StatusRelay.Proofs.Bus.History

namespace StatusRelay
namespace Session

open Happening

/-- What the past says of the publishes under way. -/
structure Line (s : Session) : Prop where
  ordered : Ordered s.past
  count : (Happening.calls s.past).length = s.calls
  pending : s.pending.map (·.2) = s.bus.pending
  sorted : (s.pending.map (·.1)).Pairwise (· < ·)
  called : ∀ c ∈ s.pending, (c.1, c.2.event) ∈ Happening.calls s.past
  undone : ∀ c ∈ s.pending, isDone s.past c.1 = false

/-- What the past says of a publish inside the gate. -/
def AtGate (s : Session) (r : Reservation) : Prop :=
  ∃ c, s.pending.head? = some c ∧ .entered c.1 ∈ s.past ∧ (∀ x ∈ entries s.past, x ≤ c.1) ∧
    ∀ id, s.bus.isOpenAt id = true → (id ∈ r.targets ↔ .entered c.1 ∈ since id s.past)

/-- What the past says of the subscribers. -/
structure Views (past : List Happening) (b : Bus) : Prop where
  closed : .closed ∈ past ↔ b.isOpen = false
  fresh : ∀ id, b.nextId ≤ id →
    .subscribed id ∉ past ∧ .dropped id ∉ past ∧ receivedBy id past = []
  existing : ∀ id, isSubscribed past id = (b.contents id).isSome
  view : ∀ id es, b.contents id = some es → receivedBy id past ++ es = due id past

/-- What holds of a session at every moment. -/
structure Faithful (s : Session) : Prop where
  sound : s.bus.Sound
  line : Line s
  inside : ∀ r, s.bus.gate = .reserving r → AtGate s r
  outside : (∀ r, s.bus.gate ≠ .reserving r) → ∀ c ∈ s.pending, ∀ x ∈ entries s.past, x < c.1
  views : Views s.past s.bus

/-! ### Subscribers -/

namespace Views

variable {past more : List Happening} {b b' : Bus}

theorem subscribed (hv : Views past b) {id : Nat} {es : List Event}
    (h : b.contents id = some es) : .subscribed id ∈ past := by
  have he := hv.existing id
  rw [h] at he
  unfold isSubscribed at he
  simp only [Option.isSome_some, Bool.and_eq_true, List.contains_eq_mem, decide_eq_true_eq] at he
  exact he.1

/-- **What publishers do between their entries and their ends is not seen.** -/
theorem unseen (hv : Views past b) (hc : b'.contents = b.contents) (ho : b'.isOpen = b.isOpen)
    (hn : b'.nextId = b.nextId)
    (hmore : ∀ h ∈ more, h ≠ .closed ∧
      ∀ id event, h ≠ .subscribed id ∧ h ≠ .dropped id ∧ h ≠ .received id event)
    (hdue : ∀ id, .subscribed id ∈ past → due id (past ++ more) = due id past) :
    Views (past ++ more) b' := by
  have hclosed : .closed ∉ more := fun h => (hmore _ h).1 rfl
  have hsub : ∀ id, .subscribed id ∉ more := fun id h => ((hmore _ h).2 id default).1 rfl
  have hdrop : ∀ id, .dropped id ∉ more := fun id h => ((hmore _ h).2 id default).2.1 rfl
  have hrec : ∀ id, receivedBy id more = [] := by
    intro id
    refine List.filterMap_eq_nil_iff.2 fun h hm => ?_
    have hne := (hmore h hm).2
    cases h with
    | received id' event => exact absurd rfl (hne id' event).2.2
    | _ => rfl
  refine ⟨?_, fun id hid => ?_, fun id => ?_, fun id es h => ?_⟩
  · rw [ho, ← hv.closed, List.mem_append]
    exact or_iff_left hclosed
  · obtain ⟨h₁, h₂, h₃⟩ := hv.fresh id (hn ▸ hid)
    rw [receivedBy_append, h₃, hrec]
    simp [h₁, h₂, hsub, hdrop]
  · rw [hc, ← hv.existing]
    unfold isSubscribed
    simp [hsub, hdrop]
  · rw [hc] at h
    rw [receivedBy_append, hrec, List.append_nil, hdue id (hv.subscribed h)]
    exact hv.view id es h

theorem subscribe (hv : Views past b) (hb : b.Sound) {id : Nat}
    (h : b.subscribe? = some (id, b')) : Views (past ++ [.subscribed id]) b' := by
  have hc := Bus.contents_subscribe hb h
  obtain ⟨rfl, hb'⟩ := Bus.subscribe?_eq h
  obtain ⟨hs, hd, hr⟩ := hv.fresh _ (Nat.le_refl _)
  refine ⟨?_, fun x hx => ?_, fun x => ?_, fun x es hx => ?_⟩
  · rw [hb', ← hv.closed]
    simp
  · rw [hb'] at hx
    obtain ⟨h₁, h₂, h₃⟩ := hv.fresh x (Nat.le_of_succ_le hx)
    have hne : x ≠ b.nextId := Nat.ne_of_gt hx
    rw [receivedBy_append, h₃]
    simp [h₁, h₂, hne, receivedBy]
  · rw [hc]
    by_cases hx : x = b.nextId
    · subst hx
      simp [isSubscribed, hd]
    · rw [if_neg hx, ← hv.existing]
      simp [isSubscribed, hx]
  · rw [hc] at hx
    rw [receivedBy_append]
    by_cases hxn : x = b.nextId
    · subst hxn
      obtain rfl := Option.some.inj ((if_pos rfl).symm.trans hx)
      have hnone : due b.nextId (past ++ [.subscribed b.nextId]) = [] := by
        unfold due isDue
        rw [since_subscribed hs]
        simp
      rw [hnone, hr]
      rfl
    · rw [if_neg hxn] at hx
      rw [due_quiet (by simp [isQuiet]) (hv.subscribed hx), ← hv.view x es hx]
      simp [receivedBy]

theorem unsubscribe (hv : Views past b) {id : Nat} (h : b.isOpenAt id = true) :
    Views (past ++ [.dropped id]) (b.unsubscribe id).1 := by
  have hc := Bus.contents_unsubscribe b id
  have hlt : id < b.nextId := by
    rw [← Bus.isSome_contents] at h
    obtain ⟨es, he⟩ := Option.isSome_iff_exists.1 h
    by_contra hle
    exact (hv.fresh id (Nat.le_of_not_lt hle)).1 (hv.subscribed he)
  refine ⟨?_, fun x hx => ?_, fun x => ?_, fun x es hx => ?_⟩
  · rw [List.mem_append, or_iff_left (by simp)]
    exact hv.closed
  · obtain ⟨h₁, h₂, h₃⟩ := hv.fresh x hx
    have hne : x ≠ id := Nat.ne_of_gt (Nat.lt_of_lt_of_le hlt hx)
    rw [receivedBy_append, h₃]
    simp [h₁, h₂, hne, receivedBy]
  · rw [hc]
    by_cases hx : x = id
    · simp [hx, isSubscribed]
    · rw [if_neg hx, ← hv.existing]
      simp [isSubscribed, hx]
  · rw [hc] at hx
    split at hx
    · simp at hx
    · rw [receivedBy_append, due_quiet (by simp [isQuiet]) (hv.subscribed hx), ← hv.view x es hx]
      simp [receivedBy]

theorem close (hv : Views past b) : Views (past ++ [.closed]) b.close.1 := by
  refine ⟨by simp [Bus.close], fun x hx => ?_, fun x => ?_, fun x es hx => ?_⟩
  · obtain ⟨h₁, h₂, h₃⟩ := hv.fresh x hx
    rw [receivedBy_append, h₃]
    simp [h₁, h₂, receivedBy]
  · rw [Bus.contents_close, ← hv.existing]
    simp [isSubscribed]
  · rw [Bus.contents_close] at hx
    rw [receivedBy_append, due_quiet (by simp [isQuiet]) (hv.subscribed hx), ← hv.view x es hx]
    simp [receivedBy]

/-- What is received was in the queue. -/
theorem receive (hv : Views past b) {id : Nat} {e : Event} {es : List Event}
    (h : b.contents id = some (e :: es)) :
    Views (past ++ [.received id e]) (b.take id).2.1 := by
  have hc := (Bus.take_of_cons h).2
  have hsub := hv.subscribed h
  have hlt : id < b.nextId := by
    by_contra hle
    exact (hv.fresh id (Nat.le_of_not_lt hle)).1 hsub
  refine ⟨?_, fun x hx => ?_, fun x => ?_, fun x es' hx => ?_⟩
  · rw [List.mem_append, or_iff_left (by simp), Bus.take_eq]
    exact hv.closed
  · rw [Bus.take_eq] at hx
    obtain ⟨h₁, h₂, h₃⟩ := hv.fresh x hx
    have hne : id ≠ x := Nat.ne_of_lt (Nat.lt_of_lt_of_le hlt hx)
    rw [receivedBy_append, h₃]
    simp [h₁, h₂, receivedBy, hne]
  · have hsome : ((b.take id).2.1.contents x).isSome = (b.contents x).isSome := by
      rw [hc]
      split
      · rename_i hx
        rw [hx, h]
        rfl
      · rfl
    rw [hsome, ← hv.existing]
    simp [isSubscribed]
  · rw [hc] at hx
    by_cases hxi : x = id
    · subst hxi
      obtain rfl := Option.some.inj ((if_pos rfl).symm.trans hx)
      rw [receivedBy_append, due_quiet (by simp [isQuiet]) hsub, ← hv.view x _ h]
      simp [receivedBy]
    · rw [if_neg hxi] at hx
      rw [receivedBy_append, due_quiet (by simp [isQuiet]) (hv.subscribed hx), ← hv.view x es' hx]
      simp [receivedBy, Ne.symm hxi]

/-- **A delivery adds what becomes due.** -/
theorem complete (hv : Views past b) (ho : Ordered past) {c : Nat} {event : Event} {n : Nat}
    (hc : (c, event) ∈ Happening.calls past) (hnd : isDone past c = false)
    (hlast : ∀ x ∈ entries past, x ≤ c) {targets : List Nat}
    (htargets : ∀ id, b.isOpenAt id = true → (id ∈ targets ↔ .entered c ∈ since id past))
    (hopen : b'.isOpen = b.isOpen) (hnext : b'.nextId = b.nextId)
    (hcont : ∀ id, b'.contents id =
      (b.contents id).map fun es => if id ∈ targets then es ++ [event] else es) :
    Views (past ++ [.completed c n]) b' := by
  refine ⟨?_, fun x hx => ?_, fun x => ?_, fun x es hx => ?_⟩
  · rw [List.mem_append, or_iff_left (by simp), hopen]
    exact hv.closed
  · obtain ⟨h₁, h₂, h₃⟩ := hv.fresh x (hnext ▸ hx)
    rw [receivedBy_append, h₃]
    simp [h₁, h₂, receivedBy]
  · rw [hcont, Option.isSome_map, ← hv.existing]
    simp [isSubscribed]
  · rw [hcont] at hx
    obtain ⟨es', hes, rfl⟩ := Option.map_eq_some_iff.1 hx
    have hat : b.isOpenAt x = true := by
      rw [← Bus.isSome_contents, hes]
      rfl
    rw [due_completed (hv.subscribed hes) ho hc hnd hlast, receivedBy_append, ← hv.view x es' hes]
    by_cases hm : x ∈ targets
    · rw [if_pos hm, if_pos ((htargets x hat).1 hm)]
      simp [receivedBy]
    · rw [if_neg hm, if_neg fun he => hm ((htargets x hat).2 he)]
      simp [receivedBy]

end Views

/-! ### Publishers -/

/-- The first publish of the bus is the first under way. -/
theorem Line.head {s : Session} (hl : Line s) {p : Publication} {l : List Publication}
    (h : s.bus.pending = p :: l) :
    ∃ n rest, s.pending = (n, p) :: rest ∧ rest.map (·.2) = l := by
  obtain ⟨c, rest, hp, rfl, hrest⟩ := List.map_eq_cons_iff.1 (hl.pending.trans h)
  exact ⟨c.1, rest, hp, hrest⟩

/-- Whatever is not first among the publishes under way has not entered. -/
theorem Faithful.tail_outside {s : Session} (hs : Faithful s) :
    ∀ c ∈ s.pending.tail, ∀ x ∈ entries s.past, x < c.1 := by
  intro c hc x hx
  by_cases hg : ∃ r, s.bus.gate = .reserving r
  · obtain ⟨r, hg⟩ := hg
    obtain ⟨c₀, hhead, -, hlast, -⟩ := hs.inside r hg
    obtain ⟨rest, hp⟩ := List.head?_eq_some_iff.1 hhead
    have hsorted := hs.line.sorted
    rw [hp, List.tail_cons] at hc
    rw [hp, List.map_cons, List.pairwise_cons] at hsorted
    exact Nat.lt_of_le_of_lt (hlast x hx) (hsorted.1 c.1 (List.mem_map_of_mem hc))
  · exact hs.outside (fun r h => hg ⟨r, h⟩) c (List.mem_of_mem_tail hc) x hx

/-- Quiet happenings keep the line, also while publishes leave it. -/
theorem Line.quiet {s s' : Session} (hl : Line s) {more : List Happening}
    (hq : ∀ h ∈ more, isQuiet h = true) (hcalls : s'.calls = s.calls)
    (hpast : s'.past = s.past ++ more) (hsub : s'.pending.Sublist s.pending)
    (hpending : s'.pending.map (·.2) = s'.bus.pending) : Line s' where
  ordered := hpast ▸ hl.ordered.quiet hq
  count := by
    rw [hpast, calls_append, calls_quiet hq, List.append_nil, hcalls]
    exact hl.count
  pending := hpending
  sorted := hl.sorted.sublist (hsub.map _)
  called := by
    intro c hc
    rw [hpast, calls_append, calls_quiet hq, List.append_nil]
    exact hl.called c (hsub.subset hc)
  undone := by
    intro c hc
    rw [hpast, isDone_append, isDone_quiet hq, Bool.or_false]
    exact hl.undone c (hsub.subset hc)

/-- A publish that is called stands last in the line. -/
theorem Line.call {s s' : Session} (hl : Line s) {ticket : Nat} {event : Event}
    (hcalls : s'.calls = s.calls + 1) (hpast : s'.past = s.past ++ [.called s.calls event])
    (hpending : s'.pending = s.pending ++ [(s.calls, ⟨ticket, event⟩)])
    (hbus : s'.bus.pending = s.bus.pending ++ [⟨ticket, event⟩]) : Line s' := by
  have hcount := hl.count
  have hnew : ∀ c ∈ s.pending, c.1 < s.calls := fun c hc =>
    hcount ▸ hl.ordered.lt_of_mem_calls (hl.called c hc)
  have hundone : isDone s.past s.calls = false := by
    by_contra hd
    have := hl.ordered.known _ (hl.ordered.finished _ (Bool.not_eq_false _ ▸ hd))
    omega
  refine ⟨?_, ?_, ?_, ?_, fun c hc => ?_, fun c hc => ?_⟩
  · rw [hpast, ← hcount]
    exact hl.ordered.call event
  · rw [hpast, calls_append, List.length_append, hcount, hcalls]
    rfl
  · rw [hpending, hbus, List.map_append, hl.pending]
    rfl
  · rw [hpending, List.map_append, List.pairwise_append]
    refine ⟨hl.sorted, List.pairwise_singleton _ _, fun x hx y hy => ?_⟩
    obtain ⟨c, hc, rfl⟩ := List.mem_map.1 hx
    rw [List.mem_singleton.1 hy]
    exact hnew c hc
  · rw [hpast, calls_append]
    rw [hpending] at hc
    rcases List.mem_append.1 hc with hc | hc
    · exact List.mem_append_left _ (hl.called c hc)
    · rw [List.mem_singleton.1 hc]
      exact List.mem_append_right _ (List.mem_singleton.2 rfl)
  · rw [hpast, isDone_append]
    rw [hpending] at hc
    rcases List.mem_append.1 hc with hc | hc
    · rw [hl.undone c hc]
      rfl
    · rw [List.mem_singleton.1 hc, hundone]
      rfl

/-- A publish enters after all that have entered before. -/
theorem Line.enter {s : Session} (hl : Line s) {c : Nat × Publication} (hc : c ∈ s.pending)
    (hout : ∀ x ∈ entries s.past, x < c.1) : Line (s.note (.entered c.1)) := by
  have hcalls : Happening.calls (s.past ++ [.entered c.1]) = Happening.calls s.past :=
    (calls_append _ _).trans (List.append_nil _)
  have hdone : ∀ x, isDone (s.past ++ [.entered c.1]) x = isDone s.past x := fun x =>
    (isDone_append _ _ x).trans (Bool.or_false _)
  have hlt := hl.ordered.lt_of_mem_calls (hl.called c hc)
  refine ⟨hl.ordered.enter hlt hout, ?_, hl.pending, hl.sorted, fun c' hm => ?_, fun c' hm => ?_⟩
  · exact hcalls ▸ hl.count
  · exact hcalls ▸ hl.called c' hm
  · exact (hdone c'.1).trans (hl.undone c' hm)

/-- A publish that is completed leaves the line. -/
theorem Line.complete {s s' : Session} (hl : Line s) {c : Nat × Publication}
    {rest : List (Nat × Publication)} (hp : s.pending = c :: rest) (he : .entered c.1 ∈ s.past)
    (count : Nat) (hcalls : s'.calls = s.calls)
    (hpast : s'.past = s.past ++ [.completed c.1 count]) (hpending : s'.pending = rest)
    (hbus : s'.bus.pending = s.bus.pending.tail) : Line s' := by
  have hsame : Happening.calls (s.past ++ [.completed c.1 count]) = Happening.calls s.past :=
    (calls_append _ _).trans (List.append_nil _)
  have hline := hl.pending
  have hsorted := hl.sorted
  rw [hp, List.map_cons] at hline hsorted
  rw [List.pairwise_cons] at hsorted
  refine ⟨?_, ?_, ?_, ?_, fun c' hm => ?_, fun c' hm => ?_⟩
  · rw [hpast]
    exact hl.ordered.complete (mem_entries.2 he) count
  · rw [hpast, hsame, hcalls]
    exact hl.count
  · rw [hpending, hbus, ← hline, List.tail_cons]
  · rw [hpending]
    exact hsorted.2
  · rw [hpending] at hm
    rw [hpast, hsame]
    exact hl.called c' (hp ▸ List.mem_cons_of_mem _ hm)
  · rw [hpending] at hm
    have hlt := hsorted.1 c'.1 (List.mem_map_of_mem hm)
    rw [hpast, isDone_append, hl.undone c' (hp ▸ List.mem_cons_of_mem _ hm)]
    simpa [isDone] using Nat.ne_of_lt hlt

/-- A publish stays inside the gate while no other enters. -/
theorem AtGate.frame {s s' : Session} {r : Reservation} (h : AtGate s r)
    {more : List Happening} (hmore : entries more = []) (hpast : s'.past = s.past ++ more)
    (hhead : ∀ c, s.pending.head? = some c → s'.pending.head? = some c)
    (hopen : ∀ id, s'.bus.isOpenAt id = true →
      (s.bus.isOpenAt id = true ∧ .subscribed id ∈ s.past) ∨
        (id ∉ r.targets ∧ since id s'.past = [])) : AtGate s' r := by
  obtain ⟨c, hc, he, hlast, ht⟩ := h
  have hno : ∀ x, .entered x ∉ more := fun x hx => by
    have := mem_entries.2 hx
    rw [hmore] at this
    simp at this
  refine ⟨c, hhead c hc, ?_, ?_, fun id hid => ?_⟩
  · rw [hpast]
    exact List.mem_append_left _ he
  · rw [hpast, entries_append, hmore, List.append_nil]
    exact hlast
  · rcases hopen id hid with ⟨ho, hs⟩ | ⟨hn, hs⟩
    · rw [ht id ho, hpast, since_append hs, List.mem_append]
      exact (or_iff_left (hno c.1)).symm
    · simp [hn, hs]

namespace Faithful

variable {s : Session}

/-- Subscriptions are in the past. -/
theorem subscribed (hs : Faithful s) {id : Nat} (h : s.bus.isOpenAt id = true) :
    .subscribed id ∈ s.past := by
  rw [← Bus.isSome_contents] at h
  obtain ⟨es, he⟩ := Option.isSome_iff_exists.1 h
  exact hs.views.subscribed he

theorem new (capacity : Option Nat) : Faithful { bus := .new capacity } where
  sound := .new capacity
  line := ⟨.nil, rfl, rfl, List.Pairwise.nil, by simp, by simp⟩
  inside := by simp [Bus.new]
  outside := by simp
  views := by
    refine ⟨by simp [Bus.new], fun id _ => by simp [receivedBy], fun id => ?_, fun id es h => ?_⟩
    · rfl
    · simp [Bus.contents, Bus.queue?, Bus.new] at h

theorem publish (hs : Faithful s) {ticket : Nat} (event : Event) (h : ticket ∉ s.bus.waiting) :
    Faithful { s with
      calls := s.calls + 1
      pending := s.pending ++ [(s.calls, Publication.mk ticket event)]
      past := s.past ++ [.called s.calls event]
      bus := s.bus.request ticket event } := by
  have hl := hs.line
  have hcontents := Bus.contents_request s.bus ticket event
  have hentries : entries (s.past ++ [.called s.calls event]) = entries s.past :=
    (entries_append _ _).trans (List.append_nil _)
  refine ⟨hs.sound.request event h, hl.call rfl rfl rfl (hs.sound.pending_request _ _),
    fun r hg => ?_, fun hg c hc x hx => ?_, ?_⟩
  · have hin := hs.inside r (Bus.gate_request_eq_reserving.1 hg)
    refine hin.frame rfl rfl (fun c hc => ?_) fun id hid => ?_
    · obtain ⟨rest, hp⟩ := List.head?_eq_some_iff.1 hc
      simp [hp]
    · rw [← Bus.isSome_contents, hcontents, Bus.isSome_contents] at hid
      exact Or.inl ⟨hid, hs.subscribed hid⟩
  · rw [hentries] at hx
    rcases List.mem_append.1 hc with hc | hc
    · exact hs.outside (fun r h => hg r (Bus.gate_request_eq_reserving.2 h)) c hc x hx
    · rw [List.mem_singleton.1 hc]
      exact hl.count ▸ hl.ordered.known x hx
  · refine hs.views.unseen hcontents (Bus.isOpen_request _ _ _) ?_ (by simp) fun id hid => ?_
    · unfold Bus.request
      split <;> rfl
    · rw [← hl.count]
      exact due_called hid hl.ordered event

/-- Operations that leave the publishes and the gate. -/
theorem aside (hs : Faithful s) {more : List Happening} {b : Bus}
    (hq : ∀ h ∈ more, isQuiet h = true) (hsound : b.Sound) (hgate : b.gate = s.bus.gate)
    (hline : b.line = s.bus.line) (hviews : Views (s.past ++ more) b)
    (hopen : ∀ id, b.isOpenAt id = true → s.bus.isOpenAt id = true ∨
      (id ∉ s.bus.ids ∧ since id (s.past ++ more) = [])) :
    Faithful { s with past := s.past ++ more, bus := b } := by
  have hp : b.pending = s.bus.pending := by
    unfold Bus.pending
    rw [hgate, hline]
  have he : entries (s.past ++ more) = entries s.past := by
    rw [entries_append, entries_quiet hq, List.append_nil]
  refine ⟨hsound, hs.line.quiet hq rfl rfl (List.Sublist.refl _) (hs.line.pending.trans hp.symm),
    ?_, ?_, hviews⟩
  · intro r hg
    have hg' : s.bus.gate = .reserving r := hgate.symm.trans hg
    refine (hs.inside r hg').frame (entries_quiet hq) rfl (fun _ hc => hc) fun id hid => ?_
    rcases hopen id hid with ho | ⟨hnew, hnone⟩
    · exact Or.inl ⟨ho, hs.subscribed ho⟩
    · exact Or.inr ⟨fun hm => hnew ((hs.sound.gate r hg').registered id hm), hnone⟩
  · intro hg c hc x hx
    rw [he] at hx
    exact hs.outside (fun r hr => hg r (hgate.trans hr)) c hc x hx

theorem subscribe (hs : Faithful s) {id : Nat} {b : Bus}
    (h : s.bus.subscribe? = some (id, b)) :
    Faithful { s with past := s.past ++ [.subscribed id], bus := b } := by
  have hv := hs.views.subscribe hs.sound h
  have hc := Bus.contents_subscribe hs.sound h
  obtain ⟨rfl, hb⟩ := Bus.subscribe?_eq h
  refine hs.aside (by simp [isQuiet]) (hs.sound.subscribe h) ?_ ?_ hv fun x hx => ?_
  · rw [hb]
  · rw [hb]
  · rw [← Bus.isSome_contents, hc] at hx
    by_cases hxn : x = s.bus.nextId
    · subst hxn
      exact Or.inr ⟨fun hm => Nat.lt_irrefl _ (hs.sound.bound _ hm),
        since_subscribed (hs.views.fresh _ (Nat.le_refl _)).1⟩
    · rw [if_neg hxn, Bus.isSome_contents] at hx
      exact Or.inl hx

theorem unsubscribe (hs : Faithful s) {id : Nat} (h : s.bus.isOpenAt id = true) :
    Faithful { s with past := s.past ++ [.dropped id], bus := (s.bus.unsubscribe id).1 } := by
  refine hs.aside (by simp [isQuiet]) (hs.sound.unsubscribe id) rfl rfl
    (hs.views.unsubscribe h) fun x hx => ?_
  rw [← Bus.isSome_contents, Bus.contents_unsubscribe] at hx
  split at hx
  · simp at hx
  · rw [Bus.isSome_contents] at hx
    exact Or.inl hx

theorem close (hs : Faithful s) :
    Faithful { s with past := s.past ++ [.closed], bus := s.bus.close.1 } :=
  hs.aside (by simp [isQuiet]) hs.sound.close rfl rfl hs.views.close fun _ hx => Or.inl hx

theorem receive (hs : Faithful s) {id : Nat} {e : Event} {es : List Event}
    (h : s.bus.contents id = some (e :: es)) :
    Faithful { s with past := s.past ++ [.received id e], bus := (s.bus.take id).2.1 } := by
  have heq := Bus.take_eq s.bus id
  refine hs.aside (by simp [isQuiet]) (hs.sound.take id) ?_ ?_ (hs.views.receive h) fun x hx => ?_
  · rw [heq]
  · rw [heq]
  · rw [← Bus.isSome_contents, (Bus.take_of_cons h).2] at hx
    rw [← Bus.isSome_contents]
    split at hx
    · rename_i hxi
      rw [hxi, h]
      exact Or.inl rfl
    · exact Or.inl hx

/-- If the gate is not kept by a publish inside it, none of those that go on has entered. -/
theorem outside_cancel (hs : Faithful s) {ticket : Nat}
    (hg : ∀ r, (s.bus.cancel ticket).2.1.gate ≠ .reserving r) {c : Nat × Publication}
    (hc : c ∈ s.pending) (hne : c.2.ticket ≠ ticket) : ∀ x ∈ entries s.past, x < c.1 := by
  rcases hs.sound.cancel_cases ticket with ⟨-, hcancel⟩ | ⟨wakes, hh, -⟩ | ⟨wakes, -, -, hcancel⟩
  · rw [hcancel] at hg
    exact hs.outside hg c hc
  · obtain ⟨p, rfl, hfirst⟩ := Bus.pending_of_holder? hh
    obtain ⟨n, rest, hpend, -⟩ := hs.line.head hfirst
    refine hs.tail_outside c ?_
    rw [hpend] at hc ⊢
    rcases List.mem_cons.1 hc with rfl | hc
    · exact absurd rfl hne
    · exact hc
  · rw [hcancel] at hg
    exact hs.outside hg c hc

theorem cancel (hs : Faithful s) (ticket : Nat) :
    Faithful { s with
      pending := s.pending.filter (·.2.ticket != ticket)
      past := s.past ++ (s.pending.filter (·.2.ticket == ticket)).map fun c => .cancelled c.1
      bus := (s.bus.cancel ticket).2.1 } := by
  have hq : ∀ h ∈ (s.pending.filter (·.2.ticket == ticket)).map fun c => Happening.cancelled c.1,
      isQuiet h = true := by
    intro h hm
    obtain ⟨c, -, rfl⟩ := List.mem_map.1 hm
    rfl
  have hb := hs.sound
  have heq := hb.cancel_eq ticket
  have hcontents := Bus.contents_cancel hb ticket
  have hpending : (s.pending.filter (·.2.ticket != ticket)).map (·.2) =
      (s.bus.cancel ticket).2.1.pending := by
    rw [hb.pending_cancel, ← hs.line.pending, List.filter_map]
    rfl
  refine ⟨hb.cancel ticket, hs.line.quiet hq rfl rfl List.filter_sublist hpending,
    fun r hg => ?_, fun hg c hc x hx => ?_, ?_⟩
  · obtain ⟨hg', hne⟩ := hb.reserving_of_cancel hg
    refine (hs.inside r hg').frame (entries_quiet hq) rfl (fun c hc => ?_) fun id hid => ?_
    · obtain ⟨rest, hp⟩ := List.head?_eq_some_iff.1 hc
      obtain ⟨n, rest', hp', -⟩ := hs.line.head (Bus.pending_of_start? (Bus.start?_reserving hg'))
      obtain ⟨rfl, -⟩ := List.cons.inj (hp.symm.trans hp')
      have hkeep : (r.request.ticket != ticket) = true := bne_iff_ne.2 hne
      simp [hp, hkeep]
    · rw [← Bus.isSome_contents, hcontents, Bus.isSome_contents] at hid
      exact Or.inl ⟨hid, hs.subscribed hid⟩
  · rw [entries_append, entries_quiet hq, List.append_nil] at hx
    obtain ⟨hmem, hne⟩ := List.mem_filter.1 hc
    exact hs.outside_cancel hg hmem (bne_iff_ne.1 hne) x hx
  · refine hs.views.unseen hcontents ?_ ?_ (fun h hm => ?_) fun id hid => due_quiet hq hid
    · rw [heq]
    · rw [heq]
    · obtain ⟨c, -, rfl⟩ := List.mem_map.1 hm
      simp

/-! ### A drive -/

/-- **At its entry** a publish finds every subscription there is, and no later entry. -/
theorem atGate_entered (hs : Faithful s) {c : Nat × Publication}
    (hc : s.pending.head? = some c) (hout : ∀ x ∈ entries s.past, x < c.1)
    {r : Reservation} (ht : r.targets = s.bus.ids) : AtGate (s.note (.entered c.1)) r := by
  refine ⟨c, hc, List.mem_append_right _ (List.mem_singleton.2 rfl), fun x hx => ?_,
    fun id ho => ?_⟩
  · have hx : x ∈ entries (s.past ++ [.entered c.1]) := hx
    rw [entries_append] at hx
    rcases List.mem_append.1 hx with hx | hx
    · exact Nat.le_of_lt (hout x hx)
    · exact Nat.le_of_eq (List.mem_singleton.1 hx)
  · have hreg : id ∈ s.bus.ids := by
      obtain ⟨q, hq, hid, -⟩ := (Bus.isOpenAt_iff hs.sound.nodup).1 ho
      exact hid ▸ List.mem_map_of_mem hq
    show id ∈ r.targets ↔ .entered c.1 ∈ since id (s.past ++ [.entered c.1])
    rw [since_append (hs.subscribed ho) [.entered c.1], ht]
    simp [hreg]

/-- **A publish that goes on has entered,** at this moment if the gate was only granted to it. -/
theorem enter (hs : Faithful s) {r : Reservation} (hr : s.bus.start? = some r) {n : Nat}
    {rest : List (Nat × Publication)} (hp : s.pending = (n, r.request) :: rest) :
    let s' := if s.bus.gate.isGranted then s.note (.entered n) else s
    Line s' ∧ AtGate s' r ∧ Views s'.past s'.bus := by
  have hl := hs.line
  have hmem : (n, r.request) ∈ s.pending := hp ▸ List.mem_cons_self
  unfold Bus.start? at hr
  split at hr
  · simp at hr
  · rename_i p hg
    obtain rfl := Option.some.inj hr
    have hout := hs.outside (by simp [hg]) _ hmem
    rw [hg]
    refine ⟨hl.enter hmem hout, hs.atGate_entered (congrArg List.head? hp) hout ?_, ?_⟩
    · simp [Reservation.targets]
    · exact hs.views.unseen rfl rfl rfl (by simp) fun id hid => due_entered hid (hl.undone _ hmem)
  · rename_i r' hg
    obtain rfl := Option.some.inj hr
    rw [hg]
    exact ⟨hl, hs.inside r' hg, hs.views⟩

/-- A publish that has entered and waits. -/
theorem wait (hb : s.bus.Sound) (hl : Line s) (hv : Views s.past s.bus) {r : Reservation}
    (hr : s.bus.start? = some r) (ha : AtGate s r) (hw : s.bus.aheadOf r ≠ []) :
    Faithful { s with bus := s.bus.drive.1 } := by
  have hcontents := Bus.contents_drive_wait hb hr hw
  have hsound := hb.drive
  rw [Bus.drive_eq_wait hr (hb.nodup_ahead hr) hw] at hcontents hsound ⊢
  have hpending : s.pending.map (·.2) = r.request :: s.bus.line :=
    hl.pending.trans (Bus.pending_of_start? hr)
  refine ⟨hsound, ⟨hl.ordered, hl.count, ?_, hl.sorted, hl.called, hl.undone⟩, ?_, ?_, ?_⟩
  · rw [hpending, Bus.hold_eq]
    rfl
  · intro r' hg
    obtain rfl := (Gate.reserving.inj hg).symm
    obtain ⟨c, hc, he, hlast, ht⟩ := ha
    refine ⟨c, hc, he, hlast, fun id ho => ?_⟩
    rw [← Bus.isSome_contents, hcontents, Bus.isSome_contents] at ho
    rw [← ht id ho]
    exact (Bus.targets_perm s.bus r).mem_iff
  · exact fun hg => absurd rfl (hg _)
  · rw [← List.append_nil s.past]
    exact hv.unseen hcontents (by rw [Bus.hold_eq]) (by rw [Bus.hold_eq]) (by simp) (by simp)

/-- A publish that has entered and delivers. -/
theorem deliver (hb : s.bus.Sound) (hl : Line s) (hv : Views s.past s.bus) {r : Reservation}
    (hr : s.bus.start? = some r) (ha : AtGate s r) (hw : s.bus.aheadOf r = []) {n : Nat}
    {rest : List (Nat × Publication)} (hp : s.pending = (n, r.request) :: rest) (count : Nat) :
    Faithful { s with
      pending := rest
      past := s.past ++ [.completed n count]
      bus := s.bus.drive.1 } := by
  have hcontents := Bus.contents_drive_deliver hb hr hw
  have hsound := hb.drive
  obtain ⟨wakes, hd⟩ := hb.drive_deliver hr hw
  rw [hd] at hcontents hsound ⊢
  obtain ⟨c, hc, he, hlast, ht⟩ := ha
  have hmem : (n, r.request) ∈ s.pending := hp ▸ List.mem_cons_self
  rw [hp, List.head?_cons] at hc
  obtain rfl := Option.some.inj hc
  have hsorted := hl.sorted
  rw [hp, List.map_cons, List.pairwise_cons] at hsorted
  have hentries : entries (s.past ++ [.completed n count]) = entries s.past :=
    (entries_append _ _).trans (List.append_nil _)
  refine ⟨hsound, hl.complete hp he count rfl rfl rfl ?_,
    fun r' hg => absurd hg (Bus.gate_passGate_ne _ r'), fun _ c hm x hx => ?_, ?_⟩
  · rw [Bus.pending_passGate, Bus.pending_of_start? hr, List.tail_cons]
    rfl
  · rw [hentries] at hx
    exact Nat.lt_of_le_of_lt (hlast x hx) (hsorted.1 c.1 (List.mem_map_of_mem hm))
  · refine hv.complete hl.ordered (hl.called _ hmem) (hl.undone _ hmem) hlast ht ?_ ?_ hcontents
    · rw [Bus.passGate_eq]
      rfl
    · rw [Bus.passGate_eq]
      rfl

theorem drive (hs : Faithful s) {r : Reservation} (hr : s.bus.start? = some r) :
    Faithful { s.noteMove s.bus.gate.isGranted (s.bus.drive.2.1.map (·.2)) with
      bus := s.bus.drive.1 } := by
  obtain ⟨n, rest, hp, -⟩ := hs.line.head (Bus.pending_of_start? hr)
  have henter := hs.enter hr hp
  -- Whether the publish enters at this moment or has entered before is the same from here on.
  obtain ⟨s', hs', hbus, hpend⟩ : ∃ s', (if s.bus.gate.isGranted then s.note (.entered n) else s) =
      s' ∧ s'.bus = s.bus ∧ s'.pending = s.pending := by
    refine ⟨_, rfl, ?_, ?_⟩
    · split <;> rfl
    · split <;> rfl
  unfold noteMove
  simp only [hp, hs'] at henter ⊢
  rw [← hbus] at hr
  have hb : s'.bus.Sound := hbus ▸ hs.sound
  obtain ⟨hl, ha, hv⟩ := henter
  by_cases hw : s'.bus.aheadOf r = []
  · have hf := deliver hb hl hv hr ha hw (hpend.trans hp)
    obtain ⟨wakes, hd⟩ := hb.drive_deliver hr hw
    rw [hd] at hf
    rw [← hbus, hd]
    exact hf _
  · have hf := wait hb hl hv hr ha hw
    have hd := Bus.drive_eq_wait hr (hb.nodup_ahead hr) hw
    rw [hd] at hf
    rw [← hbus, hd]
    exact hf

/-! ### Sessions -/

/-- A receiver takes what its queue begins with, if it begins with anything. -/
theorem take_cases {s : Session} {id : Nat} (h : s.bus.isOpenAt id = true) :
    (∃ e es, s.bus.contents id = some (e :: es) ∧ (s.bus.take id).1 = .event e) ∨
      (s.bus.contents id = some [] ∧
        s.bus.take id = (if s.bus.isGone then .closed else .nothing, s.bus, [])) := by
  rw [← Bus.isSome_contents] at h
  obtain ⟨es, he⟩ := Option.isSome_iff_exists.1 h
  rcases es with _ | ⟨e, es⟩
  · exact Or.inr ⟨he, Bus.take_of_nil he⟩
  · exact Or.inl ⟨e, es, he, (Bus.take_of_cons he).1⟩

/-- **Every operation keeps a session faithful.** -/
theorem step (hs : Faithful s) (op : Bus.Op) : Faithful (s.step op) := by
  unfold Session.step
  cases op with
  | publish ticket event =>
    simp only [Bus.perform]
    split
    · rename_i h
      exact hs.publish event h.2
    · exact hs
  | poll ticket =>
    simp only [Bus.perform]
    split
    · rename_i h
      rcases hr : s.bus.start? with _ | r
      · rw [Bus.start?_eq_none.1 hr] at h
        simp [Gate.holder?] at h
      · exact hs.drive hr
    · simp only [record, noteMove]
      split <;> exact hs
  | cancel ticket =>
    have hcancel := hs.cancel ticket
    simp only [Bus.perform]
    rcases hs.sound.cancel_cases ticket with ⟨-, hc⟩ | ⟨wakes, -, hc⟩ | ⟨wakes, -, -, hc⟩
    · rw [hc]
      exact hs
    · rw [hc] at hcancel ⊢
      exact hcancel
    · rw [hc] at hcancel ⊢
      exact hcancel
  | subscribe =>
    simp only [Bus.perform]
    split
    · rcases h : s.bus.subscribe? with _ | ⟨id, b⟩
      · exact hs
      · exact hs.subscribe h
    · exact hs
  | unsubscribe id =>
    simp only [Bus.perform]
    split
    · rename_i h
      exact hs.unsubscribe h
    · exact hs
  | recv id | tryRecv id =>
    simp only [Bus.perform]
    split
    · rename_i h
      rcases take_cases h with ⟨e, es, hc, ht⟩ | ⟨-, ht⟩
      · rw [ht]
        exact hs.receive hc
      · rw [ht]
        split <;> exact hs
    · exact hs
  | stats =>
    simp only [Bus.perform]
    split <;> exact hs
  | close =>
    simp only [Bus.perform]
    split
    · exact hs.close
    · exact hs

/-- **A session is faithful at every moment.** -/
theorem run (capacity : Option Nat) (ops : List Bus.Op) : Faithful (Session.run capacity ops) := by
  have h : ∀ (ops : List Bus.Op) (s : Session),
      Faithful s → Faithful (ops.foldl Session.step s) := by
    intro ops
    induction ops with
    | nil => exact fun _ hs => hs
    | cons op ops ih => exact fun s hs => ih _ (hs.step op)
  exact h ops _ (new capacity)

/-! ### What a subscription sees -/

theorem contents_of_subscribed (hs : Faithful s) {id : Nat} (h : isSubscribed s.past id = true) :
    s.bus.contents id = some (s.bus.itemsAt id) := by
  rw [hs.views.existing] at h
  obtain ⟨es, he⟩ := Option.isSome_iff_exists.1 h
  rw [he, Bus.itemsAt_of_contents he]

theorem history_eq (hs : Faithful s) {id : Nat} (h : isSubscribed s.past id = true) :
    s.history id = due id s.past :=
  hs.views.view id _ (hs.contents_of_subscribed h)

/-- A bus is gone once it is let go of and no publish is under way. -/
theorem isGone_iff (hs : Faithful s) :
    s.bus.isGone = true ↔ .closed ∈ s.past ∧ s.pending = [] := by
  have hp : s.pending = [] ↔ s.bus.pending = [] := by
    rw [← hs.line.pending, List.map_eq_nil_iff]
  have hbusy : s.bus.gate.holder? = none ↔ s.bus.gate.publication? = none := by
    rw [Gate.holder?_eq_map, Option.map_eq_none_iff]
  rw [hs.views.closed, hp]
  unfold Bus.isGone Bus.isBusy Bus.pending
  simp [hbusy, and_assoc]

/-- **The end of the queue** is reported when the bus and all publishes are gone and everything
due has been received, and never before. -/
theorem recv_closed_iff (hs : Faithful s) {id : Nat} (h : isSubscribed s.past id = true) :
    (s.bus.perform (.recv id)).1 = .received .closed ↔
      .closed ∈ s.past ∧ s.pending = [] ∧ receivedBy id s.past = due id s.past := by
  have hc := hs.contents_of_subscribed h
  have hh := hs.history_eq h
  have ho : s.bus.isOpenAt id = true := by
    rw [← Bus.isSome_contents, hc]
    rfl
  rw [← and_assoc, ← hs.isGone_iff, ← hh]
  unfold history
  simp only [Bus.perform, ho, if_true]
  rcases take_cases ho with ⟨e, es, hc', ht⟩ | ⟨hc', ht⟩
  · rw [ht, Bus.itemsAt_of_contents hc']
    simp
  · rw [ht, Bus.itemsAt_of_contents hc']
    rcases s.bus.isGone with _ | _ <;> simp

end Faithful

/-- **Every event once, in one order.** At any moment, for any capacity and any operations:
publishes are numbered in the order of their calls; what a subscription has received, followed by
what is in its queue, are the events of the completed publishes that got past the gate after it
was made, each once, in that order. So of two subscriptions one has seen an end of what the
other has seen; those made before the first publish have seen the same; and the end of a queue
is reported when the bus and every publish are gone and all these events have been received. -/
theorem delivered_once_in_order (capacity : Option Nat) (ops : List Bus.Op) :
    let s := Session.run capacity ops
    (Happening.calls s.past).map (·.1) = List.range s.calls ∧
    (∀ id, isSubscribed s.past id = true → s.history id = due id s.past) ∧
    (∀ id id', isSubscribed s.past id = true → isSubscribed s.past id' = true →
      s.history id <:+ s.history id' ∨ s.history id' <:+ s.history id) ∧
    (∀ id id', isSubscribed s.past id = true → isSubscribed s.past id' = true →
      Happening.calls (before id s.past) = [] → Happening.calls (before id' s.past) = [] →
      s.history id = s.history id') ∧
    ∀ id, isSubscribed s.past id = true →
      ((s.bus.perform (.recv id)).1 = .received .closed ↔
        .closed ∈ s.past ∧ s.pending = [] ∧ receivedBy id s.past = due id s.past) := by
  intro s
  have hs : Faithful s := Faithful.run capacity ops
  have hsub : ∀ id, isSubscribed s.past id = true → .subscribed id ∈ s.past := fun id h =>
    hs.views.subscribed (hs.contents_of_subscribed h)
  refine ⟨?_, fun id h => hs.history_eq h, fun id id' h h' => ?_, fun id id' h h' he he' => ?_,
    fun id h => hs.recv_closed_iff h⟩
  · rw [hs.line.ordered.numbered, hs.line.count]
  · rw [hs.history_eq h, hs.history_eq h']
    exact due_suffix_or hs.line.ordered id id'
  · rw [hs.history_eq h, hs.history_eq h', due_of_early hs.line.ordered (hsub id h) he,
      due_of_early hs.line.ordered (hsub id' h') he']

/-- The second of two publishes waits for room, and its event comes after the first. -/
example :
    let event := fun id : String => (⟨id, "a", "", "", default⟩ : Event)
    let s := Session.run (some 1) [.subscribe, .publish 0 (event "1"), .poll 0,
      .publish 1 (event "2"), .poll 1, .recv 0, .poll 1]
    (s.history 0, s.bus.itemsAt 0) = ([event "1", event "2"], [event "2"]) := by decide

end Session
end StatusRelay
