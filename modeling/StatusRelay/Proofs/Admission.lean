/-
# What filtering admits

A store answers yes to a key once. So of a list of events it lets through, in their order, those
whose keys it has not seen before, and no two with one key; and it has seen all their keys
afterwards.
-/

import StatusRelay.Admission

namespace StatusRelay
namespace Admission

variable {s : Admission} {k : Key}

theorem offer_of_mem (h : k ∈ s.keys) : s.offer k = (false, s) := by
  unfold offer
  rw [dif_pos (by simpa [contains] using h)]

theorem offer_of_not_mem (h : k ∉ s.keys) :
    (s.offer k).1 = true ∧ (s.offer k).2.keys = k :: s.keys := by
  unfold offer
  rw [dif_neg (by simpa [contains] using h)]
  exact ⟨rfl, rfl⟩

/-- An event is let through if its key is new. -/
theorem filter_cons_of_mem {e : Event} (es : List Event) (h : e.key ∈ s.keys) :
    s.filter (e :: es) = s.filter es := by
  rw [filter]
  simp only [offer_of_mem h, Bool.false_eq_true, if_false]

theorem filter_cons_of_not_mem {e : Event} (es : List Event) (h : e.key ∉ s.keys) :
    s.filter (e :: es) =
      (e :: ((s.offer e.key).2.filter es).1, ((s.offer e.key).2.filter es).2) := by
  rw [filter]
  simp only [(offer_of_not_mem h).1, if_true]

/-- **The keys of the events that are let through are the keys that are admitted.** -/
theorem keys_filter (s : Admission) (es : List Event) :
    (s.filter es).2.keys = ((s.filter es).1.map Event.key).reverse ++ s.keys := by
  induction es generalizing s with
  | nil => rfl
  | cons e es ih =>
    by_cases h : e.key ∈ s.keys
    · rw [filter_cons_of_mem es h]
      exact ih s
    · rw [filter_cons_of_not_mem es h]
      simp only [ih, (offer_of_not_mem h).2, List.map_cons, List.reverse_cons, List.append_assoc,
        List.singleton_append]

theorem filter_sublist (s : Admission) (es : List Event) : (s.filter es).1.Sublist es := by
  induction es generalizing s with
  | nil => exact List.Sublist.refl []
  | cons e es ih =>
    by_cases h : e.key ∈ s.keys
    · rw [filter_cons_of_mem es h]
      exact (ih s).cons e
    · rw [filter_cons_of_not_mem es h]
      exact (ih _).cons_cons e

/-- **Afterwards all keys have been admitted,** and no others. -/
theorem mem_keys_filter (s : Admission) (es : List Event) :
    k ∈ (s.filter es).2.keys ↔ k ∈ s.keys ∨ k ∈ es.map Event.key := by
  induction es generalizing s with
  | nil => simp [filter]
  | cons e es ih =>
    rw [List.map_cons, List.mem_cons]
    by_cases h : e.key ∈ s.keys
    · rw [filter_cons_of_mem es h, ih]
      constructor
      · rintro (hk | hk)
        · exact Or.inl hk
        · exact Or.inr (Or.inr hk)
      · rintro (hk | rfl | hk)
        · exact Or.inl hk
        · exact Or.inl h
        · exact Or.inr hk
    · rw [filter_cons_of_not_mem es h]
      simp only [ih, (offer_of_not_mem h).2, List.mem_cons]
      rw [or_comm (a := k = e.key), or_assoc]

end Admission
end StatusRelay
