/-
# Queues by their numbers

The operations of a bus change queues one by one, by their numbers. Here each run of such changes
is written as one change of all queues at once:

| run of changes | at once |
| --- | --- |
| `modify id f` for every `id` of a list without repetition | `modifyEach ids f` |
| `reserve` over the queues ahead | the queues up to the first full one, `reserve_eq` |
| `fill` of every slot held | `modifyEach held (fill …)`, `foldl_fill` |

What `reserve` does at a queue depends on that queue alone, so the queues that a publish passes are
a prefix of those ahead of it: those before the first that is open and full.
-/

import StatusRelay.Bus
import Mathlib.Data.List.Basic
import Mathlib.Data.List.Find
import Mathlib.Data.List.Nodup
import Mathlib.Tactic.Common

namespace StatusRelay
namespace Bus

/-- The numbers of the registered queues. -/
def ids (b : Bus) : List Nat := b.queues.map (·.id)

/-- Changes the queues with certain numbers. -/
def modifyEach (b : Bus) (ids : List Nat) (f : Queue → Queue) : Bus :=
  { b with queues := b.queues.map fun q => if q.id ∈ ids then f q else q }

/-- Whether a queue is registered and its subscription exists. -/
def isOpenAt (b : Bus) (id : Nat) : Bool :=
  match b.queue? id with
  | some q => q.isOpen
  | none => false

/-- The events in a queue. -/
def itemsAt (b : Bus) (id : Nat) : List Event :=
  match b.queue? id with
  | some q => q.items
  | none => []

theorem queue?_eq_some {b : Bus} {id : Nat} {q : Queue} (h : b.queue? id = some q) :
    q ∈ b.queues ∧ q.id = id := by
  unfold queue? at h
  exact ⟨List.mem_of_find?_eq_some h, by simpa using List.find?_some h⟩

theorem queue?_isSome {b : Bus} {id : Nat} : (b.queue? id).isSome ↔ id ∈ b.ids := by
  simp [queue?, ids, List.find?_isSome]

/-- **A number stands for one queue.** -/
theorem queue?_eq_some_iff {b : Bus} (hb : b.ids.Nodup) {id : Nat} {q : Queue} :
    b.queue? id = some q ↔ q ∈ b.queues ∧ q.id = id := by
  refine ⟨queue?_eq_some, ?_⟩
  rintro ⟨hq, rfl⟩
  obtain ⟨q', h⟩ := Option.isSome_iff_exists.1 (queue?_isSome.2 (List.mem_map_of_mem hq))
  obtain ⟨hq', hid⟩ := queue?_eq_some h
  rw [h, List.inj_on_of_nodup_map hb hq' hq hid]

theorem exists_queue_of_isOpenAt {b : Bus} {id : Nat} (h : b.isOpenAt id = true) :
    ∃ q ∈ b.queues, q.id = id ∧ q.isOpen = true := by
  unfold isOpenAt at h
  split at h
  · rename_i q hq
    exact ⟨q, (queue?_eq_some hq).1, (queue?_eq_some hq).2, h⟩
  · simp at h

theorem isOpenAt_iff {b : Bus} (hb : b.ids.Nodup) {id : Nat} :
    b.isOpenAt id = true ↔ ∃ q ∈ b.queues, q.id = id ∧ q.isOpen = true := by
  refine ⟨exists_queue_of_isOpenAt, ?_⟩
  rintro ⟨q, hq, hid, ho⟩
  unfold isOpenAt
  rw [(queue?_eq_some_iff hb).2 ⟨hq, hid⟩]
  exact ho

theorem isOpenAt_eq {b : Bus} (hb : b.ids.Nodup) {q : Queue} (hq : q ∈ b.queues) :
    b.isOpenAt q.id = q.isOpen := by
  unfold isOpenAt
  rw [(queue?_eq_some_iff hb).2 ⟨hq, rfl⟩]

/-! ### Changing queues -/

section Modify

variable {b : Bus} {f : Queue → Queue}

theorem mem_modifyEach {ids : List Nat} {q : Queue} :
    q ∈ (b.modifyEach ids f).queues ↔ ∃ p ∈ b.queues, (if p.id ∈ ids then f p else p) = q := by
  simp [modifyEach]

theorem modify_eq_modifyEach (id : Nat) : b.modify id f = b.modifyEach [id] f := by
  simp [modify, modifyEach]

theorem modifyEach_nil : b.modifyEach [] f = b := by
  simp [modifyEach]

theorem ids_modifyEach (hf : ∀ q, (f q).id = q.id) (ids : List Nat) :
    (b.modifyEach ids f).ids = b.ids := by
  simp only [Bus.ids, modifyEach, List.map_map]
  refine List.map_congr_left fun q _ => ?_
  simp only [Function.comp_apply]
  split
  · exact hf q
  · rfl

/-- **Changing queues one by one is changing them at once.** -/
theorem foldl_modify (hf : ∀ q, (f q).id = q.id) {ids : List Nat} (h : ids.Nodup) (b : Bus) :
    ids.foldl (fun b id => b.modify id f) b = b.modifyEach ids f := by
  induction ids generalizing b with
  | nil => rw [List.foldl_nil, modifyEach_nil]
  | cons id ids ih =>
    obtain ⟨hid, hnd⟩ := List.nodup_cons.1 h
    rw [List.foldl_cons, ih hnd]
    unfold modifyEach modify
    simp only [List.map_map, Bus.mk.injEq, true_and, and_true]
    refine List.map_congr_left fun q _ => ?_
    by_cases hq : q.id = id
    · have : q.id ∉ ids := hq ▸ hid
      simp [hf, hq, hid]
    · simp [hq]

theorem queue?_modifyEach (hf : ∀ q, (f q).id = q.id) (ids : List Nat) (id : Nat) :
    (b.modifyEach ids f).queue? id =
      (b.queue? id).map fun q => if q.id ∈ ids then f q else q := by
  unfold queue? modifyEach
  rw [List.find?_map]
  congr 1
  refine List.find?_congr fun q _ => ?_
  simp only [Function.comp_apply]
  split
  · rw [hf]
  · rfl

end Modify

/-! ### Receiving and subscribing -/

/-- Receiving changes a queue and nothing else. -/
theorem take_eq (b : Bus) (id : Nat) :
    (b.take id).2.1 = { b with queues := (b.take id).2.1.queues } := by
  unfold take modify
  split
  · split <;> rfl
  · rfl

theorem ids_take (b : Bus) (id : Nat) : (b.take id).2.1.ids = b.ids := by
  unfold take
  split
  · split
    · rename_i e es hi
      rw [modify_eq_modifyEach]
      exact ids_modifyEach (f := fun q => { q with items := es }) (fun _ => rfl) _
    · rfl
  · rfl

theorem drain_eq (b : Bus) (id : Nat) :
    (b.drain id).2.1 = { b with queues := (b.drain id).2.1.queues } := by
  unfold drain modify
  split <;> rfl

theorem subscribe?_eq {b b' : Bus} {id : Nat} (h : b.subscribe? = some (id, b')) :
    id = b.nextId ∧ b' = { b with
      queues := b.queues ++ [⟨b.nextId, true, [], 0⟩]
      nextId := b.nextId + 1 } := by
  unfold subscribe? at h
  split at h
  · obtain ⟨rfl, rfl⟩ := Prod.mk.inj (Option.some.inj h)
    exact ⟨rfl, rfl⟩
  · simp at h

theorem ids_subscribe {b b' : Bus} {id : Nat} (h : b.subscribe? = some (id, b')) :
    b'.ids = b.ids ++ [id] := by
  obtain ⟨rfl, rfl⟩ := subscribe?_eq h
  simp [ids]

/-- A new queue changes nothing for the others. -/
theorem queue?_subscribe {b b' : Bus} {id : Nat} (h : b.subscribe? = some (id, b')) {x : Nat}
    (hx : x ∈ b.ids) : b'.queue? x = b.queue? x := by
  obtain ⟨rfl, rfl⟩ := subscribe?_eq h
  have hs := queue?_isSome.2 hx
  unfold queue? at hs ⊢
  rw [List.find?_append, Option.or_of_isSome hs]

/-! ### The first phase of a publish -/

/-- Whether a publish that visits a queue goes on to the next. -/
def passes (b : Bus) (id : Nat) : Bool :=
  match b.capacity, b.queue? id with
  | some _, some q => !q.isOpen || q.hasRoom b.capacity
  | _, _ => true

/-- Whether a publish that passes a queue will deliver to it. -/
def takes (b : Bus) (id : Nat) : Bool := b.capacity.isNone || b.isOpenAt id

/-- One more slot of a queue is reserved. -/
def addSlot (q : Queue) : Queue := { q with reserved := q.reserved + 1 }

/-- One slot of a queue becomes free. -/
def freeSlot (q : Queue) : Queue := { q with reserved := q.reserved - 1 }

/-- Reserves slots, which an unbounded bus does not have. -/
def hold (b : Bus) (ids : List Nat) : Bus :=
  if b.capacity.isSome then b.modifyEach ids addSlot else b

theorem passes_of_unbounded {b : Bus} (h : b.capacity = none) (id : Nat) : b.passes id = true := by
  simp [passes, h]

theorem takes_of_unbounded {b : Bus} (h : b.capacity = none) (id : Nat) : b.takes id = true := by
  simp [takes, h]

theorem capacity_hold (b : Bus) (held : List Nat) : (b.hold held).capacity = b.capacity := by
  unfold hold
  split <;> rfl

theorem hold_nil (b : Bus) : b.hold [] = b := by
  unfold hold
  split
  · exact modifyEach_nil
  · rfl

theorem queue?_hold_of_notMem {b : Bus} {held : List Nat} {id : Nat} (h : id ∉ held) :
    (b.hold held).queue? id = b.queue? id := by
  unfold hold
  split
  · rw [queue?_modifyEach (f := addSlot) fun _ => rfl]
    rcases hq : b.queue? id with _ | q
    · rfl
    · rw [Option.map_some, if_neg ((queue?_eq_some hq).2 ▸ h)]
  · rfl

/-- Reserving at some queues changes nothing for the others. -/
theorem passes_hold_of_notMem {b : Bus} {held : List Nat} {id : Nat} (h : id ∉ held) :
    (b.hold held).passes id = b.passes id := by
  unfold passes
  rw [queue?_hold_of_notMem h, capacity_hold]

theorem takes_hold_of_notMem {b : Bus} {held : List Nat} {id : Nat} (h : id ∉ held) :
    (b.hold held).takes id = b.takes id := by
  unfold takes isOpenAt
  rw [queue?_hold_of_notMem h, capacity_hold]

theorem hold_hold {b : Bus} {id : Nat} {held : List Nat} (h : id ∉ held) :
    (b.hold [id]).hold held = b.hold (id :: held) := by
  rcases hc : b.capacity with _ | c
  · simp [hold, hc]
  · unfold hold modifyEach
    simp only [hc, Option.isSome_some, if_true, List.map_map, Bus.mk.injEq, true_and, and_true]
    refine List.map_congr_left fun q _ => ?_
    by_cases hq : q.id = id
    · simp [hq, h, addSlot]
    · simp [hq]

/-- One visit of the first phase. -/
theorem reserve_cons (b : Bus) (p : Publication) (held gone : List Nat) (id : Nat)
    (ahead : List Nat) :
    b.reserve p held gone (id :: ahead) =
      if b.passes id then
        if b.takes id then (b.hold [id]).reserve p (held ++ [id]) gone ahead
        else b.reserve p held (gone ++ [id]) ahead
      else (b, ⟨p, id :: ahead, held, gone⟩) := by
  rcases hc : b.capacity with _ | c
  · simp [reserve, hc, passes_of_unbounded hc, takes_of_unbounded hc, hold]
  · rcases hq : b.queue? id with _ | q
    · simp [reserve, hc, passes, takes, isOpenAt, hq]
    · by_cases ho : q.isOpen = true
      · by_cases hr : q.hasRoom (some c) = true
        · simp only [reserve, hc, passes, takes, isOpenAt, hq, ho, hr, hold,
            modify_eq_modifyEach]
          rfl
        · simp [reserve, hc, passes, hq, ho, hr]
      · simp [reserve, hc, passes, takes, isOpenAt, hq, ho]

/-- **The first phase at once.** A publish passes the queues before the first that is open and
full, and reserves a slot in those of them that are open. -/
theorem reserve_eq (p : Publication) {ahead : List Nat} (h : ahead.Nodup) {b : Bus}
    {P T : Nat → Bool} (hP : ∀ id ∈ ahead, b.passes id = P id)
    (hT : ∀ id ∈ ahead, b.takes id = T id) (held gone : List Nat) :
    b.reserve p held gone ahead =
      (b.hold ((ahead.takeWhile P).filter T),
        ⟨p, ahead.dropWhile P, held ++ (ahead.takeWhile P).filter T,
          gone ++ (ahead.takeWhile P).filter fun id => !T id⟩) := by
  induction ahead generalizing b held gone with
  | nil => simp [reserve, hold_nil]
  | cons id ahead ih =>
    obtain ⟨hid, hnd⟩ := List.nodup_cons.1 h
    have hne : ∀ x ∈ ahead, x ∉ [id] := fun x hx => by
      simpa using ne_of_mem_of_not_mem hx hid
    rw [reserve_cons, hP id List.mem_cons_self, hT id List.mem_cons_self]
    rcases hp : P id with _ | _
    · simp [hp, hold_nil]
    · rcases ht : T id with _ | _
      · rw [if_pos rfl, if_neg (by simp),
          ih hnd (fun x hx => hP x (List.mem_cons_of_mem _ hx))
            (fun x hx => hT x (List.mem_cons_of_mem _ hx))]
        simp [hp, ht]
      · rw [if_pos rfl, if_pos rfl,
          ih hnd
            (fun x hx => (passes_hold_of_notMem (hne x hx)).trans
              (hP x (List.mem_cons_of_mem _ hx)))
            (fun x hx => (takes_hold_of_notMem (hne x hx)).trans
              (hT x (List.mem_cons_of_mem _ hx))),
          hold_hold fun hm => hid ((List.takeWhile_subset _) (List.mem_filter.1 hm).1)]
        simp [hp, ht]

end Bus
end StatusRelay
