/-
EgressPolicy/Proofs/Engine/Cache.lean

What a cache holds after an insertion.

Two statements, for the two ways in which a cache is used below.  In any case
an insertion brings in nothing but its own entry (`find?_of_find?_insert`),
however much it drops.  And where a new key still finds room, it drops nothing
(`find?_insert_of_lt`), so each insertion counts one entry more
(`size_insert_of_lt`).
-/
import Mathlib
import EgressPolicy.Engine.Cache

namespace EgressPolicy.Cache

/-! ### Association lists -/

/-- What is found in the first part of a list is found in the list. -/
theorem lookup_of_lookup_take {α β : Type} [BEq α] {l : List (α × β)} {n : Nat} {k : α} {b : β}
    (h : (l.take n).lookup k = some b) : l.lookup k = some b := by
  rw [← List.take_append_drop n l, List.lookup_append, h, Option.some_or]

/-- Dropping the entries of one key leaves the others as they are. -/
theorem lookup_filter_ne (l : List (String × Action)) {key k : String} (h : k ≠ key) :
    (l.filter (·.1 ≠ key)).lookup k = l.lookup k := by
  induction l with
  | nil => rfl
  | cons p l ih =>
    obtain ⟨k', b⟩ := p
    by_cases hk : k' = key
    · have hne : (k == k') = false := beq_eq_false_iff_ne.mpr (hk ▸ h)
      rw [List.filter_cons_of_neg (by simp [hk]), ih, List.lookup_cons, hne]
    · rw [List.filter_cons_of_pos (by simp [hk]), List.lookup_cons, List.lookup_cons, ih]

/-- A key that is not found has no entry. -/
theorem filter_ne_of_lookup_eq_none {l : List (String × Action)} {key : String}
    (h : l.lookup key = none) : l.filter (·.1 ≠ key) = l := by
  rw [List.filter_eq_self]
  rintro ⟨k, b⟩ hmem
  have hne : key ≠ k := bne_iff_ne.mp (List.lookup_eq_none_iff.mp h (k, b) hmem)
  simpa using hne.symm

theorem find?_of_entries_eq_nil {c : Cache} (h : c.entries = []) (key : String) :
    c.find? key = none := by
  rw [find?, h, List.lookup_nil]

/-! ### Insertions -/

/-- What is found after an insertion is the new action, or was found before. -/
theorem find?_of_find?_insert {c : Cache} {key k : String} {a b : Action}
    (h : (c.insert key a).find? k = some b) :
    if k = key then b = a else c.find? k = some b := by
  have hfull := lookup_of_lookup_take h
  rw [List.lookup_cons] at hfull
  by_cases hk : k = key
  · rw [if_pos hk]
    simpa [hk, eq_comm] using hfull
  · rw [beq_eq_false_iff_ne.mpr hk] at hfull
    rw [if_neg hk, find?, ← lookup_filter_ne _ hk]
    exact hfull

/-- A new key that finds room has one entry more. -/
theorem entries_insert_of_lt {c : Cache} {key : String} (hnew : c.find? key = none)
    (hroom : c.size < c.capacity) (a : Action) :
    (c.insert key a).entries = (key, a) :: c.entries := by
  rw [insert, filter_ne_of_lookup_eq_none hnew]
  exact List.take_of_length_le hroom

theorem find?_insert_of_lt {c : Cache} {key : String} (hnew : c.find? key = none)
    (hroom : c.size < c.capacity) (a : Action) (k : String) :
    (c.insert key a).find? k = if k = key then some a else c.find? k := by
  rw [find?, entries_insert_of_lt hnew hroom, List.lookup_cons]
  by_cases hk : k = key
  · simp [hk]
  · simp [hk, find?, beq_eq_false_iff_ne.mpr hk]

theorem size_insert_of_lt {c : Cache} {key : String} (hnew : c.find? key = none)
    (hroom : c.size < c.capacity) (a : Action) : (c.insert key a).size = c.size + 1 := by
  rw [size, entries_insert_of_lt hnew hroom, List.length_cons, size]

/-- A cache without room stays as empty as it is. -/
theorem entries_insert_of_capacity_zero {c : Cache} (h : c.capacity = 0) (key : String)
    (a : Action) : (c.insert key a).entries = [] := by
  rw [insert, h, List.take_zero]

end EgressPolicy.Cache
