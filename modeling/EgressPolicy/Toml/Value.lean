/-
EgressPolicy/Toml/Value.lean

The values of a TOML document.

A table keeps its entries in the order in which they were written, and
remembers what created it, because that decides what may still be added to
it.  An array of tables is never empty: its last table, which is the one that
is still growing, stands apart from the earlier ones.

Floating-point numbers and dates are checked when they are read but not kept:
no setting depends on which one it is.

Every change of a table goes through `alter?`, which changes what one name
stands for and nothing else (`lookup_alter?_self`, `lookup_alter?_of_ne`).
-/
namespace EgressPolicy.Toml

/-- What created a table. -/
inductive Origin where
  /-- A header of its own. -/
  | header
  /-- The header of a table inside it. -/
  | implied
  /-- A dotted key. -/
  | dotted
  /-- Braces. -/
  | braces
deriving DecidableEq

/-- A value. -/
inductive Value where
  | string (s : String)
  | integer (n : Int)
  | floating
  | boolean (b : Bool)
  | date
  | array (items : List Value)
  | table (origin : Origin) (entries : List (String × Value))
  /-- An array of tables, of which the last is still growing. -/
  | tables (earlier : List (List (String × Value))) (last : List (String × Value))

/-- The entries of a table. -/
abbrev Entries := List (String × Value)

namespace Entries

/-- The entries with a change to what `name` stands for: `change` is told the
value so far, and refuses or gives the new one. -/
def alter? (name : String) (change : Option Value → Option Value) : Entries → Option Entries
  | [] => (change none).map fun v => [(name, v)]
  | (k, v) :: es =>
    if k = name then (change (some v)).map fun v' => (k, v') :: es
    else (alter? name change es).map ((k, v) :: ·)

/-- The entries with a new one; the name must be new. -/
def add? (name : String) (v : Value) : Entries → Option Entries :=
  alter? name fun
    | none => some v
    | some _ => none

/-- What the changed name stands for afterwards. -/
theorem lookup_alter?_self {name : String} {change : Option Value → Option Value}
    {es es' : Entries} (h : alter? name change es = some es') :
    es'.lookup name = change (es.lookup name) := by
  induction es generalizing es' with
  | nil =>
    obtain ⟨v, hv, rfl⟩ := Option.map_eq_some_iff.1 h
    simp [hv]
  | cons e es ih =>
    rcases e with ⟨k, v⟩
    by_cases hk : k = name
    · subst hk
      simp only [alter?, if_true] at h
      obtain ⟨v', hv', rfl⟩ := Option.map_eq_some_iff.1 h
      simp [hv']
    · simp only [alter?, hk, if_false] at h
      obtain ⟨es₁, h₁, rfl⟩ := Option.map_eq_some_iff.1 h
      have hn : (name == k) = false := by simp [Ne.symm hk]
      simp [List.lookup_cons, hn, ih h₁]

/-- Every other name stands for what it stood for. -/
theorem lookup_alter?_of_ne {name other : String} {change : Option Value → Option Value}
    {es es' : Entries} (h : alter? name change es = some es') (hne : other ≠ name) :
    es'.lookup other = es.lookup other := by
  induction es generalizing es' with
  | nil =>
    obtain ⟨v, -, rfl⟩ := Option.map_eq_some_iff.1 h
    have hn : (other == name) = false := by simp [hne]
    simp [List.lookup_cons, hn]
  | cons e es ih =>
    rcases e with ⟨k, v⟩
    by_cases hk : k = name
    · subst hk
      simp only [alter?, if_true] at h
      obtain ⟨v', -, rfl⟩ := Option.map_eq_some_iff.1 h
      have hn : (other == k) = false := by simp [hne]
      simp [List.lookup_cons, hn]
    · simp only [alter?, hk, if_false] at h
      obtain ⟨es₁, h₁, rfl⟩ := Option.map_eq_some_iff.1 h
      rcases e : other == k with - | -
      · simp [List.lookup_cons, e, ih h₁]
      · simp [List.lookup_cons, e]

end Entries
end EgressPolicy.Toml
