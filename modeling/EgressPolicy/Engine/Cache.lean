/-
EgressPolicy/Engine/Cache.lean

Remembered actions, at most as many as the cache has room for.

The entries stand newest first and each key has one entry, so a full cache
forgets its oldest entry.  A cache without room never remembers anything.
-/
import EgressPolicy.Rule.Basic

namespace EgressPolicy

/-- Remembered actions by key. -/
structure Cache where
  capacity : Nat
  entries : List (String × Action) := []

namespace Cache

/-- The action remembered under a key. -/
def find? (c : Cache) (key : String) : Option Action := c.entries.lookup key

/-- How many actions are remembered. -/
def size (c : Cache) : Nat := c.entries.length

/-- Remember an action under a key, in place of what was there. -/
def insert (c : Cache) (key : String) (action : Action) : Cache :=
  { c with entries := ((key, action) :: c.entries.filter (·.1 ≠ key)).take c.capacity }

@[simp] theorem capacity_insert (c : Cache) (key : String) (action : Action) :
    (c.insert key action).capacity = c.capacity := rfl

/-- The cache never holds more than it has room for. -/
theorem size_insert_le (c : Cache) (key : String) (action : Action) :
    (c.insert key action).size ≤ c.capacity := by
  simp only [size, insert, List.length_take]
  exact Nat.min_le_left _ _

/-- What was remembered last is found, if there is room at all. -/
theorem find?_insert_self {c : Cache} (h : c.capacity ≠ 0) (key : String) (action : Action) :
    (c.insert key action).find? key = some action := by
  obtain ⟨n, hn⟩ := Nat.exists_eq_succ_of_ne_zero h
  simp [find?, insert, hn]

end Cache
end EgressPolicy
