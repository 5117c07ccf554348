/-
EgressPolicy/Proofs/Database/Alignment.lean

Reading ends where skipping ends, unless an array has elements to spare.

Data that is read in a shape and data that is skipped lead to the same
position, whatever stands there and however it is nested, with one exception:
an array that stands for a record is read only as far as the record has
fields, and what comes next is then looked for among the elements left over.
`Spare` says that there is such an array somewhere in the data of a shape.

`skip?_of_decode?` is by induction on the levels.  For runs of values, entries
and elements the induction hypothesis comes in as a fact about the reader of
one value that they are given.
-/
import Mathlib
import EgressPolicy.Proofs.Database.Skip

namespace EgressPolicy

theorem Section.skipItem_of_scalar? (s : Section) {shape : Shape} {item : Item} {datum : Datum}
    (h : shape.scalar? item = some datum) (next : Nat) : s.skipItem next item = some next := by
  cases item with
  | pointer | map | array => cases shape <;> cases h
  | _ => rfl

namespace Section

variable {s : Section}

/-! ### Arrays with elements to spare -/

/-- In the data of a shape at a position there is an array that stands for a
record and has more elements than the record has fields. -/
inductive Spare (s : Section) : Shape → Nat → Prop
  | here {fields : List (String × Shape)} {pos count start : Nat} :
      s.item? pos = some (.array count, start) → fields.length < count →
      Spare s (.record fields) pos
  | pointer {shape : Shape} {pos target next : Nat} :
      s.item? pos = some (.pointer target, next) → Spare s shape target → Spare s shape pos
  | element {shape : Shape} {pos count start i p : Nat} :
      s.item? pos = some (.array count, start) → i < count →
      skipMany s.skip? i start = some p → Spare s shape p → Spare s (.list shape) pos
  | field {fields : List (String × Shape)} {pos count start i p : Nat} {name : String}
      {shape : Shape} :
      s.item? pos = some (.array count, start) → i < count → fields[i]? = some (name, shape) →
      skipMany s.skip? i start = some p → Spare s shape p → Spare s (.record fields) pos
  | entry {fields : List (String × Shape)} {pos count start i p value : Nat} {key : Item}
      {name : String} {shape : Shape} :
      s.item? pos = some (.map count, start) → i < count →
      skipMany s.skip? (2 * i) start = some p → s.key? p = some (key, value) →
      fieldNamed? fields key = some (some (name, shape)) → Spare s shape value →
      Spare s (.record fields) pos

/-- A text has no array in it. -/
theorem not_spare_text (pos : Nat) : ¬ s.Spare .text pos := by
  intro h
  generalize hshape : Shape.text = shape at h
  induction h with
  | pointer _ _ ih => exact ih hshape
  | _ => cases hshape

/-! ### Keys -/

/-- A key that names something is skipped as it is read. -/
theorem skip?_of_key? {fields : List (String × Shape)} {pos next : Nat} {key : Item}
    {named : Option (String × Shape)} (h : s.key? pos = some (key, next))
    (hnamed : fieldNamed? fields key = some named) : s.skip? pos = some next := by
  have hkey (after : Nat) : s.skipItem after key = some after := by
    cases key with
    | bytes | unsigned => rfl
    | _ => cases hnamed
  obtain ⟨⟨item, after⟩, hitem, hrest⟩ := Option.bind_eq_some_iff.mp h
  rw [skip?_eq_of_item? hitem]
  cases item with
  | pointer target =>
    obtain ⟨⟨_, end'⟩, htarget, heq⟩ := Option.map_eq_some_iff.mp hrest
    cases heq
    show (s.skip? target).map _ = _
    rw [skip?_eq_of_item? htarget, hkey, Option.map_some]
  | _ =>
    cases hrest
    exact hkey _

/-! ### Runs -/

section Runs

variable {value : Shape → Nat → Option (Datum × Nat)}

/-- Values of which each is read to where skipping it ends are read to where
skipping all of them ends. -/
theorem skipMany_of_values? {shape : Shape} :
    ∀ {count start next : Nat},
      (∀ i < count, ∀ p datum q, skipMany s.skip? i start = some p →
        value shape p = some (datum, q) → s.skip? p = some q) →
      values? value shape count start = some next → skipMany s.skip? count start = some next
  | 0, _, _, _, h => h
  | count + 1, start, next, hvalue, h => by
    obtain ⟨⟨datum, mid⟩, hfirst, hrest⟩ := Option.bind_eq_some_iff.mp h
    have hskip : s.skip? start = some mid := hvalue 0 (by omega) start datum mid rfl hfirst
    refine Option.bind_eq_some_iff.mpr ⟨mid, hskip, skipMany_of_values? ?_ hrest⟩
    intro i hi p datum q hp
    refine hvalue (i + 1) (by omega) p datum q ?_
    exact Option.bind_eq_some_iff.mpr ⟨mid, hskip, hp⟩

/-- The same of the elements of an array that stands for a record, of which
there are no more than fields. -/
theorem skipMany_of_elements? :
    ∀ {fields : List (String × Shape)} {count start next : Nat} {found : List (String × Datum)},
      count ≤ fields.length →
      (∀ i < count, ∀ name shape p datum q, fields[i]? = some (name, shape) →
        skipMany s.skip? i start = some p → value shape p = some (datum, q) →
        s.skip? p = some q) →
      elements? value fields count start = some (found, next) →
      skipMany s.skip? count start = some next
  | fields, 0, _, _, _, _, _, h => by
    cases fields <;> cases h <;> rfl
  | (name, shape) :: fields, count + 1, start, next, _, hcount, hvalue, h => by
    obtain ⟨⟨datum, mid⟩, hfirst, hafter⟩ := Option.bind_eq_some_iff.mp h
    obtain ⟨⟨found, end'⟩, hrest, heq⟩ := Option.bind_eq_some_iff.mp hafter
    cases heq
    have hskip : s.skip? start = some mid :=
      hvalue 0 (by omega) name shape start datum mid rfl rfl hfirst
    have hfew : count ≤ fields.length := Nat.le_of_succ_le_succ hcount
    refine Option.bind_eq_some_iff.mpr ⟨mid, hskip, skipMany_of_elements? hfew ?_ hrest⟩
    intro i hi name shape p datum q hfield hp
    refine hvalue (i + 1) (by omega) name shape p datum q hfield ?_
    exact Option.bind_eq_some_iff.mpr ⟨mid, hskip, hp⟩

/-- The value of a key that no field has is skipped. -/
theorem entries?_succ_of_unknown {fields : List (String × Shape)} {start v mid : Nat} {key : Item}
    (hkey : s.key? start = some (key, v)) (hnamed : fieldNamed? fields key = some none)
    (hskip : s.skip? v = some mid) (count : Nat) (found : List (String × Datum)) :
    s.entries? value fields (count + 1) found start = s.entries? value fields count found mid := by
  simp [entries?, hkey, hnamed, hskip]

/-- The value of a field that has not been read yet is read. -/
theorem entries?_succ_of_field {fields : List (String × Shape)} {start v mid : Nat} {key : Item}
    {name : String} {shape : Shape} {datum : Datum} {found : List (String × Datum)}
    (hkey : s.key? start = some (key, v))
    (hnamed : fieldNamed? fields key = some (some (name, shape)))
    (hnew : (found.lookup name).isSome = false) (hread : value shape v = some (datum, mid))
    (count : Nat) :
    s.entries? value fields (count + 1) found start =
      s.entries? value fields count (found ++ [(name, datum)]) mid := by
  simp [entries?, hkey, hnamed, hnew, hread]

/-- There is no third kind of entry. -/
theorem exists_of_entries?_succ {fields : List (String × Shape)} {count start : Nat}
    {found : List (String × Datum)} {r : List (String × Datum) × Nat}
    (h : s.entries? value fields (count + 1) found start = some r) :
    ∃ key v mid, s.key? start = some (key, v) ∧
      (fieldNamed? fields key = some none ∧ s.skip? v = some mid ∨
        ∃ name shape datum, fieldNamed? fields key = some (some (name, shape)) ∧
          (found.lookup name).isSome = false ∧ value shape v = some (datum, mid)) := by
  obtain ⟨⟨key, v⟩, hkey, hafter⟩ := Option.bind_eq_some_iff.mp h
  obtain ⟨named, hnamed, hrest⟩ := Option.bind_eq_some_iff.mp hafter
  rcases named with - | ⟨name, shape⟩
  · obtain ⟨mid, hskip, -⟩ := Option.bind_eq_some_iff.mp hrest
    exact ⟨key, v, mid, hkey, .inl ⟨hnamed, hskip⟩⟩
  · rcases hold : (found.lookup name).isSome
    · simp only [hold] at hrest
      obtain ⟨⟨datum, mid⟩, hread, -⟩ := Option.bind_eq_some_iff.mp hrest
      exact ⟨key, v, mid, hkey, .inr ⟨name, shape, datum, hnamed, hold, hread⟩⟩
    · simp [hold] at hrest

/-- The same of the entries of a map that is a record. -/
theorem skipMany_of_entries? {fields : List (String × Shape)} :
    ∀ {count start next : Nat} {found found' : List (String × Datum)},
      (∀ i < count, ∀ p key v name shape datum q, skipMany s.skip? (2 * i) start = some p →
        s.key? p = some (key, v) → fieldNamed? fields key = some (some (name, shape)) →
        value shape v = some (datum, q) → s.skip? v = some q) →
      s.entries? value fields count found start = some (found', next) →
      skipMany s.skip? (2 * count) start = some next
  | 0, _, _, _, _, _, h => by
    cases h
    rfl
  | count + 1, start, next, found, found', hvalue, h => by
    obtain ⟨key, v, mid, hkey, hentry⟩ := exists_of_entries?_succ h
    -- However the value is treated, what follows it is what skipping it leads to.
    obtain ⟨found₁, hskipKey, hskip, hentries⟩ : ∃ found₁, s.skip? start = some v ∧
        s.skip? v = some mid ∧ s.entries? value fields count found₁ mid = some (found', next) := by
      rcases hentry with ⟨hnamed, hskip⟩ | ⟨name, shape, datum, hnamed, hnew, hread⟩
      · rw [entries?_succ_of_unknown hkey hnamed hskip] at h
        exact ⟨found, skip?_of_key? hkey hnamed, hskip, h⟩
      · rw [entries?_succ_of_field hkey hnamed hnew hread] at h
        have hskip := hvalue 0 (by omega) start key v name shape datum mid rfl hkey hnamed hread
        exact ⟨_, skip?_of_key? hkey hnamed, hskip, h⟩
    have hpair (n : Nat) : skipMany s.skip? (2 * (n + 1)) start = skipMany s.skip? (2 * n) mid := by
      rw [Nat.mul_add_one, Nat.add_comm, skipMany_add]
      simp [skipMany, hskipKey, hskip]
    rw [hpair]
    refine skipMany_of_entries? ?_ hentries
    intro i hi p key v name shape datum q hp
    refine hvalue (i + 1) (by omega) p key v name shape datum q ?_
    rw [hpair, hp]

end Runs

/-! ### Data -/

/-- **Reading and skipping end at the same position**, unless there is an array
with elements to spare. -/
theorem skip?_of_decode? {depth : Nat} :
    ∀ {shape : Shape} {pos next : Nat} {datum : Datum},
      s.decode? depth shape pos = some (datum, next) → ¬ s.Spare shape pos →
      s.skip? pos = some next := by
  induction depth with
  | zero =>
    intro shape pos next datum h _
    obtain ⟨⟨item, after⟩, hitem, hread⟩ := Option.bind_eq_some_iff.mp h
    obtain ⟨datum, hscalar, heq⟩ := Option.map_eq_some_iff.mp hread
    cases heq
    rw [skip?_eq_of_item? hitem, skipItem_of_scalar? s hscalar]
  | succ depth ih =>
    intro shape pos next datum h hspare
    obtain ⟨⟨item, after⟩, hitem, hread⟩ := Option.bind_eq_some_iff.mp h
    rw [skip?_eq_of_item? hitem]
    cases item with
    | pointer target =>
      obtain ⟨⟨_, end'⟩, htarget, heq⟩ := Option.map_eq_some_iff.mp hread
      cases heq
      show (s.skip? target).map _ = _
      rw [ih htarget fun hs => hspare (.pointer hitem hs), Option.map_some]
    | map count =>
      cases shape with
      | table =>
        obtain ⟨_, hvalues, heq⟩ := Option.map_eq_some_iff.mp hread
        cases heq
        exact skipMany_of_values? (fun i _ p datum q _ hp => ih hp (not_spare_text p)) hvalues
      | record fields =>
        obtain ⟨⟨found, _⟩, hentries, heq⟩ := Option.map_eq_some_iff.mp hread
        cases heq
        refine skipMany_of_entries? ?_ hentries
        intro i hi p key v name shape datum q hp hkey hnamed hv
        exact ih hv fun hs => hspare (.entry hitem hi hp hkey hnamed hs)
      | _ => cases hread
    | array count =>
      cases shape with
      | list element =>
        obtain ⟨_, hvalues, heq⟩ := Option.map_eq_some_iff.mp hread
        cases heq
        refine skipMany_of_values? ?_ hvalues
        exact fun i hi p datum q hskip hp => ih hp fun hs => hspare (.element hitem hi hskip hs)
      | record fields =>
        obtain ⟨⟨found, _⟩, helements, heq⟩ := Option.map_eq_some_iff.mp hread
        cases heq
        have hcount : count ≤ fields.length := by
          by_contra hmany
          exact hspare (.here hitem (by omega))
        refine skipMany_of_elements? hcount ?_ helements
        intro i hi name shape p datum q hfield hskip hp
        exact ih hp fun hs => hspare (.field hitem hi hfield hskip hs)
      | _ => cases hread
    | _ =>
      obtain ⟨datum, hscalar, heq⟩ := Option.map_eq_some_iff.mp hread
      cases heq
      rfl

end Section
end EgressPolicy
