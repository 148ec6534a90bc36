/-
# The registry of providers

Providers in the order in which they were registered. A name stands for one provider only, since
it is also the name under which events are admitted; registering it again changes nothing.
-/

import StatusRelay.Failure
import StatusRelay.Text.Quoted

namespace StatusRelay

/-- Named things in the order of registration, no two of one name. -/
structure Registry (α : Type) where
  entries : List (String × α)
  nodup : (entries.map (·.1)).Nodup := by decide

namespace Registry

variable {α : Type}

/-- The registry that holds nothing. -/
def empty : Registry α := ⟨[], List.nodup_nil⟩

/-- The names in order. -/
def names (r : Registry α) : List String := r.entries.map (·.1)

/-- The number of entries. -/
def size (r : Registry α) : Nat := r.entries.length

/-- Registers a provider under its name. -/
def register (r : Registry α) (name : String) (value : α) :
    Except RegistryFailure (Registry α) :=
  if h : name ∈ r.names then .error (.duplicate name)
  else .ok ⟨r.entries ++ [(name, value)], by
    have := r.nodup
    simp only [List.map_append, List.map_cons, List.map_nil, List.nodup_append]
    refine ⟨this, by simp, ?_⟩
    intro a ha b hb
    simp only [List.mem_singleton] at hb
    rintro rfl
    exact h (hb ▸ ha)⟩

/-- A registry as a developer sees it. -/
def describe (r : Registry α) : String :=
  "ProviderRegistry \x7b providers: " ++ Text.quotedList r.names ++ " \x7d"

end Registry
end StatusRelay
