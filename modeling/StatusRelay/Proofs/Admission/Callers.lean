/-
# Callers of one store

Any number of callers use one store at the same time. Each makes its calls in an order of its own;
the store is locked for the time of a call, so a call is one step, and the steps of the callers come
in any order.

| call | offers its key | answer |
| --- | --- | --- |
| `offer` | yes | whether the key is new |
| `offerEvent` | yes | whether the key of the event is new |
| `contains` | no | whether the key has been admitted |

What the answers are depends on the calls before, whoever made them: a key that the store did not
hold at first is admitted by the first call that offers it, and by no other. So the number of keys
admitted in the end is the same in every order of the calls (`admitted_once`).
-/

import StatusRelay.Proofs.Admission
import Mathlib.Data.Finset.Card
import Mathlib.Data.Finset.Dedup

namespace StatusRelay
namespace Admission

/-- A call of a store. -/
inductive Call where
  /-- Offers the key of a provider and an identifier. -/
  | offer (provider id : String)
  /-- Offers the key of an event. -/
  | offerEvent (e : Event)
  /-- Looks a key up. -/
  | contains (provider id : String)
  deriving DecidableEq

namespace Call

/-- The key that a call is about. -/
def key : Call → Key
  | offer provider id | contains provider id => ⟨provider, id⟩
  | offerEvent e => e.key

/-- Whether a call offers its key. -/
def offers : Call → Bool
  | contains .. => false
  | _ => true

end Call

/-- The answer to a call, and the store afterwards. -/
def reply (s : Admission) : Call → Bool × Admission
  | .offer provider id => s.offer ⟨provider, id⟩
  | .offerEvent e => s.offer e.key
  | .contains provider id => (s.contains ⟨provider, id⟩, s)

/-- A call that was made, with its caller and its answer. -/
structure Answered where
  caller : Nat
  call : Call
  answer : Bool
  deriving DecidableEq

namespace Answered

/-- The keys that were offered, in order. -/
def offered (past : List Answered) : List Key :=
  (past.filter (·.call.offers)).map (·.call.key)

/-- The answers to the calls that offered a key, in order. -/
def answersTo (k : Key) (past : List Answered) : List Bool :=
  (past.filter fun a => a.call.offers && a.call.key == k).map (·.answer)

/-- How many calls admitted their key. -/
def admitted (past : List Answered) : Nat := past.countP fun a => a.call.offers && a.answer

/-- The calls of one caller, in order. -/
def callsBy (caller : Nat) (past : List Answered) : List Call :=
  (past.filter fun a => a.caller == caller).map (·.call)

variable {past : List Answered} {a : Answered} {k : Key}

theorem mem_offered_concat : k ∈ offered (past ++ [a]) ↔
    k ∈ offered past ∨ a.call.offers = true ∧ a.call.key = k := by
  unfold offered
  rw [List.filter_append, List.map_append, List.mem_append]
  refine or_congr_right ?_
  cases h : a.call.offers <;> simp [h, eq_comm]

theorem answersTo_eq_nil_iff : answersTo k past = [] ↔ k ∉ offered past := by
  unfold answersTo offered
  rw [List.map_eq_nil_iff, List.filter_eq_nil_iff]
  constructor
  · intro h hk
    obtain ⟨a, ha, rfl⟩ := List.mem_map.1 hk
    obtain ⟨hmem, hoffers⟩ := List.mem_filter.1 ha
    exact h a hmem (by simp [hoffers])
  · intro h a ha hk
    rw [Bool.and_eq_true, beq_iff_eq] at hk
    exact h (List.mem_map.2 ⟨a, List.mem_filter.2 ⟨ha, hk.1⟩, hk.2⟩)

theorem answersTo_concat_of_ne (h : ¬(a.call.offers = true ∧ a.call.key = k)) :
    answersTo k (past ++ [a]) = answersTo k past := by
  have hno : (a.call.offers && a.call.key == k) = false := by simpa using h
  unfold answersTo
  rw [List.filter_append, List.filter_singleton, hno, cond_false, List.append_nil]

theorem answersTo_concat (past : List Answered) (hoffers : a.call.offers = true) :
    answersTo a.call.key (past ++ [a]) = answersTo a.call.key past ++ [a.answer] := by
  have hyes : (a.call.offers && a.call.key == a.call.key) = true := by simp [hoffers]
  unfold answersTo
  rw [List.filter_append, List.filter_singleton, hyes, cond_true, List.map_append]
  rfl

theorem callsBy_concat (caller : Nat) : callsBy caller (past ++ [a]) =
    callsBy caller past ++ if a.caller = caller then [a.call] else [] := by
  unfold callsBy
  rw [List.filter_append, List.map_append]
  by_cases h : a.caller = caller
  · simp [h]
  · have hne : (a.caller == caller) = false := by simpa using h
    simp [h, hne]

end Answered

open Answered

variable {s t : Admission} {k : Key}

/-! ### One call -/

theorem reply_of_offers {c : Call} (h : c.offers = true) (t : Admission) :
    t.reply c = t.offer c.key := by
  cases c with
  | contains => simp [Call.offers] at h
  | _ => rfl

theorem reply_of_not_offers {c : Call} (h : c.offers = false) (t : Admission) :
    t.reply c = (t.contains c.key, t) := by
  cases c with
  | contains => rfl
  | _ => simp [Call.offers] at h

theorem offer_fst (t : Admission) (k : Key) : (t.offer k).1 = true ↔ k ∉ t.keys := by
  by_cases h : k ∈ t.keys
  · simp [offer_of_mem h, h]
  · simp [(offer_of_not_mem h).1, h]

theorem mem_keys_offer {j : Key} : k ∈ (t.offer j).2.keys ↔ k ∈ t.keys ∨ j = k := by
  by_cases h : j ∈ t.keys
  · rw [offer_of_mem h]
    constructor
    · exact Or.inl
    · rintro (hk | rfl)
      · exact hk
      · exact h
  · rw [(offer_of_not_mem h).2, List.mem_cons, or_comm, eq_comm]

theorem size_offer (t : Admission) (k : Key) :
    (t.offer k).2.size = t.size + if (t.offer k).1 then 1 else 0 := by
  unfold size
  by_cases h : k ∈ t.keys
  · rw [offer_of_mem h]
    rfl
  · rw [(offer_of_not_mem h).1, (offer_of_not_mem h).2]
    rfl

/-- **What a store that began as `s` has come to** with the calls that were made. -/
structure Grown (s : Admission) (past : List Answered) (t : Admission) : Prop where
  /-- It holds the keys that it held at first, and those that were offered. -/
  mem_keys : ∀ k, k ∈ t.keys ↔ k ∈ s.keys ∨ k ∈ offered past
  size_eq : t.size = s.size + admitted past
  /-- Of the calls that offered a key, the first admitted it, unless it was held at first. -/
  first : ∀ k b rest, answersTo k past = b :: rest →
    (b = true ↔ k ∉ s.keys) ∧ ∀ b ∈ rest, b = false
  /-- Who looked a key up was told whether it was held at first or had been offered. -/
  lookup : ∀ before a after, past = before ++ a :: after → a.call.offers = false →
    (a.answer = true ↔ a.call.key ∈ s.keys ∨ a.call.key ∈ offered before)

namespace Grown

variable {past : List Answered}

theorem nil (s : Admission) : Grown s [] s where
  mem_keys k := by simp [offered]
  size_eq := rfl
  first k b rest h := by simp [answersTo] at h
  lookup before a after h := by simp at h

/-- Lookups among the calls made are the old ones, and the new call if it is one. -/
theorem lookup_concat (h : Grown s past t) {a : Answered}
    (ha : a.call.offers = false → (a.answer = true ↔ a.call.key ∈ t.keys)) :
    ∀ before b after, past ++ [a] = before ++ b :: after → b.call.offers = false →
      (b.answer = true ↔ b.call.key ∈ s.keys ∨ b.call.key ∈ offered before) := by
  intro before b after heq hb
  rcases List.eq_nil_or_concat after with rfl | ⟨later, d, rfl⟩
  · obtain ⟨rfl, hba⟩ := List.append_inj' heq rfl
    obtain rfl : a = b := by simpa using hba
    rw [ha hb, h.mem_keys]
  · rw [List.concat_eq_append, ← List.cons_append, ← List.append_assoc] at heq
    exact h.lookup before b later (List.append_inj' heq rfl).1 hb

/-- A call that offers its key. -/
theorem offer (h : Grown s past t) (caller : Nat) {c : Call} (hc : c.offers = true) :
    Grown s (past ++ [⟨caller, c, (t.offer c.key).1⟩]) (t.offer c.key).2 where
  mem_keys k := by
    rw [mem_keys_offer, h.mem_keys, mem_offered_concat, or_assoc]
    simp [hc]
  size_eq := by
    rw [size_offer, h.size_eq]
    unfold admitted
    rw [List.countP_append, List.countP_singleton, Nat.add_assoc]
    simp [hc]
  first k b rest hanswers := by
    by_cases hk : c.key = k
    · subst hk
      have hconcat := answersTo_concat past (a := ⟨caller, c, (t.offer c.key).1⟩) hc
      rw [hconcat] at hanswers
      have hnew := offer_fst t c.key
      rw [h.mem_keys] at hnew
      -- The call is the first that offers the key, or one before it has brought the key in.
      rcases hold : answersTo c.key past with _ | ⟨b', rest'⟩
      · rw [hold] at hanswers
        obtain ⟨rfl, rfl⟩ := List.cons.inj hanswers
        have hnot := answersTo_eq_nil_iff.1 hold
        refine ⟨by rw [hnew]; simp [hnot], by simp⟩
      · rw [hold] at hanswers
        obtain ⟨rfl, rfl⟩ := List.cons.inj hanswers
        obtain ⟨hfirst, hrest⟩ := h.first _ _ _ hold
        have hmem : c.key ∈ offered past := by
          by_contra hnot
          rw [answersTo_eq_nil_iff.2 hnot] at hold
          cases hold
        have hlast : (t.offer c.key).1 = false := by
          rw [← Bool.not_eq_true, hnew]
          simp [hmem]
        refine ⟨hfirst, fun b hb => ?_⟩
        rcases List.mem_append.1 hb with hb | hb
        · exact hrest b hb
        · rw [List.mem_singleton.1 hb, hlast]
    · rw [answersTo_concat_of_ne fun hx => hk hx.2] at hanswers
      exact h.first k b rest hanswers
  lookup := h.lookup_concat fun hno => by simp [hc] at hno

/-- A call that looks its key up. -/
theorem look (h : Grown s past t) (caller : Nat) {c : Call} (hc : c.offers = false) :
    Grown s (past ++ [⟨caller, c, t.contains c.key⟩]) t where
  mem_keys k := by
    rw [h.mem_keys, mem_offered_concat]
    simp [hc]
  size_eq := by
    rw [h.size_eq]
    unfold admitted
    rw [List.countP_append, List.countP_singleton]
    simp [hc]
  first k b rest hanswers := by
    rw [answersTo_concat_of_ne (by simp [hc])] at hanswers
    exact h.first k b rest hanswers
  lookup := h.lookup_concat fun _ => by simp [contains]

/-- **A call of either kind,** whoever makes it. -/
theorem reply (h : Grown s past t) (caller : Nat) (c : Call) :
    Grown s (past ++ [⟨caller, c, (t.reply c).1⟩]) (t.reply c).2 := by
  cases hc : c.offers with
  | true =>
    rw [reply_of_offers hc]
    exact h.offer caller hc
  | false =>
    rw [reply_of_not_offers hc]
    exact h.look caller hc

/-- The size of the store is the number of different keys that were ever in it. -/
theorem size_eq_card (h : Grown s past t) :
    t.size = (s.keys.toFinset ∪ (offered past).toFinset).card := by
  have hkeys : t.keys.toFinset = s.keys.toFinset ∪ (offered past).toFinset := by
    ext k
    simp [h.mem_keys k]
  rw [← hkeys, List.toFinset_card_of_nodup t.nodup]
  rfl

/-- So many calls admitted their keys as there are different keys that were offered, and not held at
first. -/
theorem admitted_eq_card (h : Grown s past t) :
    admitted past = ((offered past).toFinset \ s.keys.toFinset).card := by
  have hsize := h.size_eq
  have hs : s.size = s.keys.toFinset.card := (List.toFinset_card_of_nodup s.nodup).symm
  rw [h.size_eq_card, hs, ← Finset.union_sdiff_self_eq_union,
    Finset.card_union_of_disjoint Finset.disjoint_sdiff] at hsize
  omega

end Grown

/-! ### Callers -/

/-- Callers of one store. -/
structure Callers where
  store : Admission
  /-- The calls that each caller has still to make, in order. -/
  waiting : List (List Call)
  /-- The calls that were made, in order. -/
  past : List Answered

namespace Callers

/-- Callers who have made no call yet. -/
def start (s : Admission) (scripts : List (List Call)) : Callers := ⟨s, scripts, []⟩

/-- A caller makes its next call, if there is one. -/
def turn (c : Callers) (caller : Nat) : Callers :=
  match c.waiting[caller]? with
  | some (call :: rest) =>
    ⟨(c.store.reply call).2, c.waiting.set caller rest,
      c.past ++ [⟨caller, call, (c.store.reply call).1⟩]⟩
  | _ => c

/-- Callers make calls in turn, in any order. -/
def run (c : Callers) (turns : List Nat) : Callers := turns.foldl turn c

/-- The keys that callers are to offer. -/
def offeredIn (scripts : List (List Call)) : List Key :=
  (scripts.flatten.filter (·.offers)).map (·.key)

variable {c : Callers} {scripts : List (List Call)}

/-- **Where callers stand:** the store has grown by the calls made, and each caller has made the
calls that it no longer has to make. -/
structure Stand (s : Admission) (scripts : List (List Call)) (c : Callers) : Prop where
  grown : Grown s c.past c.store
  script : ∀ caller : Nat, callsBy caller c.past ++ c.waiting[caller]?.getD [] =
    scripts[caller]?.getD []
  length_eq : c.waiting.length = scripts.length

theorem Stand.start (s : Admission) (scripts : List (List Call)) :
    Stand s scripts (start s scripts) :=
  ⟨Grown.nil s, fun _ => rfl, rfl⟩

theorem Stand.turn (h : Stand s scripts c) (caller : Nat) : Stand s scripts (c.turn caller) := by
  unfold Callers.turn
  split
  · rename_i call rest hwaiting
    refine ⟨h.grown.reply caller call, fun other => ?_, ?_⟩
    · rw [callsBy_concat, ← h.script other]
      by_cases hother : caller = other
      · subst hother
        have hlt : caller < c.waiting.length := (List.getElem?_eq_some_iff.1 hwaiting).1
        simp [hwaiting, List.getElem?_set_self hlt]
      · simp [hother, List.getElem?_set_ne hother]
    · rw [List.length_set, h.length_eq]
  · exact h

theorem Stand.run (h : Stand s scripts c) (turns : List Nat) : Stand s scripts (c.run turns) := by
  induction turns generalizing c with
  | nil => exact h
  | cons caller turns ih => exact ih (h.turn caller)

/-- When all calls have been made, the keys that were offered are those of the scripts. -/
theorem Stand.toFinset_offered (h : Stand s scripts c) (hdone : ∀ l ∈ c.waiting, l = []) :
    (offered c.past).toFinset = (offeredIn scripts).toFinset := by
  have hnone : ∀ caller : Nat, c.waiting[caller]?.getD [] = [] := fun caller => by
    rcases hl : c.waiting[caller]? with _ | l
    · rfl
    · exact hdone l (List.mem_of_getElem? hl)
  have hscript : ∀ caller : Nat, callsBy caller c.past = scripts[caller]?.getD [] := by
    intro caller
    rw [← h.script caller, hnone, List.append_nil]
  have hcalls : ∀ call, (∃ a ∈ c.past, a.call = call) ↔ call ∈ scripts.flatten := by
    intro call
    rw [List.mem_flatten]
    constructor
    · rintro ⟨a, ha, rfl⟩
      have hmem : a.call ∈ callsBy a.caller c.past :=
        List.mem_map_of_mem (List.mem_filter.2 ⟨ha, by simp⟩)
      rw [hscript] at hmem
      rcases hl : scripts[a.caller]? with _ | l
      · simp [hl] at hmem
      · exact ⟨l, List.mem_of_getElem? hl, by simpa [hl] using hmem⟩
    · rintro ⟨l, hl, hcall⟩
      obtain ⟨caller, hcaller⟩ := List.getElem?_of_mem hl
      have hmem : call ∈ callsBy caller c.past := by
        rw [hscript, hcaller]
        exact hcall
      obtain ⟨a, ha, rfl⟩ := List.mem_map.1 hmem
      exact ⟨a, List.mem_of_mem_filter ha, rfl⟩
  ext k
  simp only [offered, offeredIn, List.mem_toFinset, List.mem_map, List.mem_filter]
  constructor
  · rintro ⟨a, ⟨ha, hoffers⟩, hk⟩
    exact ⟨a.call, ⟨(hcalls a.call).1 ⟨a, ha, rfl⟩, hoffers⟩, hk⟩
  · rintro ⟨call, ⟨hmem, hoffers⟩, hk⟩
    obtain ⟨a, ha, rfl⟩ := (hcalls call).2 hmem
    exact ⟨a, ⟨ha, hoffers⟩, hk⟩

end Callers

/-- Keys in which the mark stands elsewhere are different, and written alike. -/
theorem text_eq_of_parts (a b c : String) :
    (⟨a ++ "/" ++ b, c⟩ : Key) ≠ ⟨a, b ++ "/" ++ c⟩ ∧
      (⟨a ++ "/" ++ b, c⟩ : Key).text = (⟨a, b ++ "/" ++ c⟩ : Key).text := by
  constructor
  · intro h
    have hlength := congrArg String.length (Key.mk.inj h).1
    have hmark : "/".length = 1 := rfl
    rw [String.length_append, String.length_append, hmark] at hlength
    omega
  · simp only [Key.text, String.append_assoc]

/-- **Keys are admitted once, however callers interleave.** A store that holds some keys is used by
any number of callers, who make their calls in turn, in any order. At every moment

* each caller has made the calls that it no longer has to make, in order;
* of the calls that offered a key the first was answered with yes if the store did not hold the key
  at first, and all others with no;
* a call that looked a key up was answered with yes if the store held the key at first or a call
  before had offered it, and with no otherwise;
* the size of the store has grown by the number of calls that were answered with yes when they
  offered a key, and is the number of different keys that the store held at first or that were
  offered;
* once all calls have been made, the number of those calls is that of the different keys which the
  callers offer and the store did not hold at first, so it is the same in every order.

A key is its provider and its identifier: offering a key changes nothing for any other key, and
there are different keys that are written alike. -/
theorem admitted_once (s : Admission) (scripts : List (List Call)) (turns : List Nat) :
    let c := (Callers.start s scripts).run turns
    (∀ caller : Nat,
      callsBy caller c.past ++ c.waiting[caller]?.getD [] = scripts[caller]?.getD []) ∧
    (∀ k b rest, answersTo k c.past = b :: rest →
      (b = true ↔ k ∉ s.keys) ∧ ∀ b ∈ rest, b = false) ∧
    (∀ before a after, c.past = before ++ a :: after → a.call.offers = false →
      (a.answer = true ↔ a.call.key ∈ s.keys ∨ a.call.key ∈ offered before)) ∧
    (c.store.size = s.size + admitted c.past ∧
      c.store.size = (s.keys.toFinset ∪ (offered c.past).toFinset).card) ∧
    ((∀ l ∈ c.waiting, l = []) →
      admitted c.past = ((Callers.offeredIn scripts).toFinset \ s.keys.toFinset).card) ∧
    (∀ j k, j ≠ k → ((c.store.offer j).2.contains k = c.store.contains k ∧
      ((c.store.offer j).2.offer k).1 = (c.store.offer k).1)) ∧
    ∀ a b c : String, (⟨a ++ "/" ++ b, c⟩ : Key) ≠ ⟨a, b ++ "/" ++ c⟩ ∧
      (⟨a ++ "/" ++ b, c⟩ : Key).text = (⟨a, b ++ "/" ++ c⟩ : Key).text := by
  intro c
  have h : Callers.Stand s scripts c := (Callers.Stand.start s scripts).run turns
  refine ⟨h.script, h.grown.first, h.grown.lookup, ⟨h.grown.size_eq, h.grown.size_eq_card⟩,
    fun hdone => ?_, fun j k hne => ?_, text_eq_of_parts⟩
  · rw [h.grown.admitted_eq_card, h.toFinset_offered hdone]
  · have hmem : k ∈ (c.store.offer j).2.keys ↔ k ∈ c.store.keys := by
      rw [mem_keys_offer]
      simp [hne]
    constructor
    · rw [Bool.eq_iff_iff]
      simpa [contains] using hmem
    · rw [Bool.eq_iff_iff, offer_fst, offer_fst, hmem]

/-- The second caller looks the key up too early, and offers it too late. -/
example : ((Callers.start empty [[.offer "p" "1"],
    [.contains "p" "1", .offerEvent ⟨"1", "p", "API", "Up", default⟩, .contains "p" "1"]]).run
      [1, 0, 1, 1]).past.map (·.answer) = [false, true, false, true] := by decide

end Admission
end StatusRelay
