/-
# Admission of events

The store of keys that have been admitted. A key is admitted once: the call that adds it answers
yes, every later one no. Keys are never removed, so the size of the store is the number of keys
ever admitted. Looking a key up does not admit it.
-/

import StatusRelay.Event

namespace StatusRelay

/-- The keys admitted so far, the latest first. -/
structure Admission where
  keys : List Key
  nodup : keys.Nodup := by decide

namespace Admission

/-- The store that has admitted nothing. -/
def empty : Admission := ⟨[], List.nodup_nil⟩

instance : Inhabited Admission := ⟨empty⟩

/-- The number of keys admitted. -/
def size (s : Admission) : Nat := s.keys.length

/-- Whether a key has been admitted. -/
def contains (s : Admission) (k : Key) : Bool := s.keys.contains k

/-- Offers a key, which is admitted if it is new; the answer is whether it is. -/
def offer (s : Admission) (k : Key) : Bool × Admission :=
  if h : s.contains k then (false, s)
  else (true, ⟨k :: s.keys, List.nodup_cons.2 ⟨by simpa [contains] using h, s.nodup⟩⟩)

/-- Offers the keys of events one after another; the result holds the events that are new. -/
def filter (s : Admission) : List Event → List Event × Admission
  | [] => ([], s)
  | e :: es =>
    let (fresh, s) := s.offer e.key
    let (rest, s) := s.filter es
    (if fresh then e :: rest else rest, s)

/-- Offers keys one after another; the result is how many were new. -/
def countNew (s : Admission) : List Key → Nat × Admission
  | [] => (0, s)
  | k :: ks =>
    let (fresh, s) := s.offer k
    let (n, s) := s.countNew ks
    (if fresh then n + 1 else n, s)

end Admission
end StatusRelay
