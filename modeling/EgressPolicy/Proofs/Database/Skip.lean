/-
EgressPolicy/Proofs/Database/Skip.lean

What follows an item does not depend on how deep one looks.

Skipping is given as many levels as the file has bytes, and pointers can lead
in circles.  Each further level lets more positions be skipped or leaves all as
they are, for good (`skipWithin?_congr`); as the positions are those of bytes,
the growth is over by then.  So `skip?` is a fixed point of its own step
(`skip?_eq_skipVia`), from which one reads off what skipping does with each
kind of item.
-/
import Mathlib
import EgressPolicy.Database.Shape

namespace EgressPolicy
namespace Section

/-! ### Several items -/

section Many

variable {f g : Nat → Option Nat}

/-- Whoever skips more single items skips more runs of them. -/
theorem skipMany_mono (h : ∀ p q, f p = some q → g p = some q) :
    ∀ {n p q : Nat}, skipMany f n p = some q → skipMany g n p = some q
  | 0, _, _, hp => hp
  | n + 1, p, q, hp => by
    obtain ⟨r, hr, hq⟩ := Option.bind_eq_some_iff.mp hp
    exact Option.bind_eq_some_iff.mpr ⟨r, h p r hr, skipMany_mono h hq⟩

theorem skipMany_add (f : Nat → Option Nat) (m n pos : Nat) :
    skipMany f (m + n) pos = (skipMany f m pos).bind (skipMany f n) := by
  induction m generalizing pos with
  | zero => simp [skipMany]
  | succ m ih =>
    rw [Nat.succ_add]
    show (f pos).bind (skipMany f (m + n)) = ((f pos).bind (skipMany f m)).bind (skipMany f n)
    rw [Option.bind_assoc]
    exact congrArg _ (funext ih)

end Many

/-! ### Levels -/

variable {s : Section}

/-- What follows an item whose content is at `pos`, when `skip` says what follows
the items one level below. -/
def skipContent (s : Section) (skip : Nat → Option Nat) (kind : ItemKind) (size pos : Nat) :
    Option Nat :=
  match kind with
  | .pointer => do
    let (target, next) ← s.pointer? size pos
    let _ ← skip target
    return next
  | .map => skipMany skip (2 * size) pos
  | .array => skipMany skip size pos
  | .flag => some pos
  | _ => some (pos + size)

/-- What follows the item at a position, when `skip` says so for the items one
level below. -/
def skipVia (s : Section) (skip : Nat → Option Nat) (pos : Nat) : Option Nat := do
  let (kind, size, pos) ← s.head? pos
  s.skipContent skip kind size pos

theorem skipWithin?_succ (depth : Nat) :
    s.skipWithin? (depth + 1) = s.skipVia (s.skipWithin? depth) := rfl

theorem skipVia_mono {f g : Nat → Option Nat} (h : ∀ p q, f p = some q → g p = some q)
    {pos next : Nat} (hpos : s.skipVia f pos = some next) : s.skipVia g pos = some next := by
  obtain ⟨⟨kind, size, start⟩, hhead, hkind⟩ := Option.bind_eq_some_iff.mp hpos
  refine Option.bind_eq_some_iff.mpr ⟨_, hhead, ?_⟩
  cases kind with
  | pointer =>
    obtain ⟨⟨target, after⟩, hpointer, htarget⟩ := Option.bind_eq_some_iff.mp hkind
    obtain ⟨end', hend, hafter⟩ := Option.bind_eq_some_iff.mp htarget
    exact Option.bind_eq_some_iff.mpr ⟨_, hpointer,
      Option.bind_eq_some_iff.mpr ⟨end', h target end' hend, hafter⟩⟩
  | map => exact skipMany_mono h hkind
  | array => exact skipMany_mono h hkind
  | _ => exact hkind

/-- With one more level the same is skipped, and maybe more. -/
theorem skipWithin?_mono_succ (depth : Nat) :
    ∀ p q, s.skipWithin? depth p = some q → s.skipWithin? (depth + 1) p = some q := by
  induction depth with
  | zero => exact fun _ _ h => by cases h
  | succ depth ih => exact fun _ _ h => skipVia_mono ih h

/-- Levels that change nothing leave nothing to the level above. -/
theorem skipWithin?_congr {d e : Nat} (h : s.skipWithin? d = s.skipWithin? e) :
    s.skipWithin? (d + 1) = s.skipWithin? (e + 1) := by
  rw [skipWithin?_succ, skipWithin?_succ, h]

theorem lt_of_byte? {pos b : Nat} (h : s.byte? pos = some b) : pos < s.bytes.size := by
  obtain ⟨_, hbyte, -⟩ := Option.map_eq_some_iff.mp h
  obtain ⟨hlt, -⟩ := getElem?_eq_some_iff.mp hbyte
  omega

/-- What can be skipped starts with a byte. -/
theorem lt_of_skipWithin? {depth pos next : Nat} (h : s.skipWithin? depth pos = some next) :
    pos < s.bytes.size := by
  cases depth with
  | zero => cases h
  | succ depth =>
    obtain ⟨_, hhead, -⟩ := Option.bind_eq_some_iff.mp h
    obtain ⟨_, hbyte, -⟩ := Option.bind_eq_some_iff.mp hhead
    exact lt_of_byte? hbyte

/-- The positions that can be skipped with so many levels. -/
def skippable (s : Section) (depth : Nat) : Finset Nat :=
  (Finset.range s.bytes.size).filter fun pos => (s.skipWithin? depth pos).isSome

theorem mem_skippable {depth pos : Nat} :
    pos ∈ s.skippable depth ↔ ∃ next, s.skipWithin? depth pos = some next := by
  rw [skippable, Finset.mem_filter, Option.isSome_iff_exists, Finset.mem_range,
    and_iff_right_iff_imp]
  rintro ⟨next, h⟩
  exact lt_of_skipWithin? h

theorem skippable_subset_succ (depth : Nat) : s.skippable depth ⊆ s.skippable (depth + 1) := by
  intro pos hpos
  obtain ⟨next, h⟩ := mem_skippable.mp hpos
  exact mem_skippable.mpr ⟨next, skipWithin?_mono_succ depth pos next h⟩

/-- A level that lets no more positions be skipped changes nothing. -/
theorem skipWithin?_succ_eq {depth : Nat}
    (h : (s.skippable depth).card = (s.skippable (depth + 1)).card) :
    s.skipWithin? depth = s.skipWithin? (depth + 1) := by
  have hsame := Finset.eq_of_subset_of_card_le (skippable_subset_succ depth) h.ge
  funext pos
  rcases hpos : s.skipWithin? depth pos with - | next
  · have hnot : pos ∉ s.skippable depth := by simp [mem_skippable, hpos]
    rw [hsame, mem_skippable] at hnot
    exact (Option.eq_none_iff_forall_ne_some.mpr fun next hn => hnot ⟨next, hn⟩).symm
  · exact (skipWithin?_mono_succ depth pos next hpos).symm

/-- No number of levels lets more be skipped than as many as there are bytes. -/
theorem skipWithin?_size_succ :
    s.skipWithin? (s.bytes.size + 1) = s.skipWithin? (s.bytes.size + 2) := by
  let count (depth : Nat) := (s.skippable depth).card
  have hmono : Monotone count :=
    monotone_nat_of_le_succ fun depth => Finset.card_le_card (skippable_subset_succ depth)
  have hbound (depth : Nat) : count depth ≤ s.bytes.size :=
    (Finset.card_filter_le _ _).trans_eq (Finset.card_range _)
  have hstable : ∀ depth, count depth = count (depth + 1) →
      count (depth + 1) = count (depth + 2) := by
    intro depth h
    show (s.skippable (depth + 1)).card = (s.skippable (depth + 2)).card
    rw [skippable, skippable, skipWithin?_congr (skipWithin?_succ_eq h)]
  have hcount (n : Nat) (hn : s.bytes.size ≤ n) : count n = count s.bytes.size :=
    Nat.stabilises_of_monotone hmono hbound hstable hn
  exact skipWithin?_succ_eq ((hcount _ (by omega)).trans (hcount _ (by omega)).symm)

/-- **Skipping is a fixed point of its step.** -/
theorem skip?_eq_skipVia : s.skip? = s.skipVia s.skip? := by
  show s.skipWithin? (s.bytes.size + 1) = s.skipVia (s.skipWithin? (s.bytes.size + 1))
  rw [← skipWithin?_succ]
  exact skipWithin?_size_succ

/-! ### Skipping an item that can be read -/

theorem skip?_eq_of_head? {pos size start : Nat} {kind : ItemKind}
    (h : s.head? pos = some (kind, size, start)) :
    s.skip? pos = s.skipContent s.skip? kind size start := by
  have hstep : s.skip? pos = s.skipVia s.skip? pos := congrFun skip?_eq_skipVia pos
  rw [hstep]
  show (s.head? pos).bind _ = _
  rw [h]
  rfl

theorem eq_add_of_bounded? {limit size pos n next : Nat}
    (h : s.bounded? limit size pos = some (n, next)) : next = pos + size := by
  rw [bounded?] at h
  split at h
  · obtain ⟨_, -, heq⟩ := Option.map_eq_some_iff.mp h
    cases heq
    rfl
  · cases h

theorem eq_add_of_fixed? {item item' : Item} {wanted size pos next : Nat}
    (h : s.fixed? item wanted size pos = some (item', next)) :
    item' = item ∧ next = pos + size := by
  rw [fixed?] at h
  split at h
  · obtain ⟨_, -, heq⟩ := Option.map_eq_some_iff.mp h
    cases heq
    exact ⟨rfl, rfl⟩
  · cases h

/-- What follows an item and all that belongs to it, when `next` follows what is
read of the item itself. -/
def skipItem (s : Section) (next : Nat) : Item → Option Nat
  | .pointer target => (s.skip? target).map fun _ => next
  | .map count => skipMany s.skip? (2 * count) next
  | .array count => skipMany s.skip? count next
  | _ => some next

/-- A sound item is skipped as what it is read as. -/
theorem skip?_eq_of_item? {pos next : Nat} {item : Item} (h : s.item? pos = some (item, next)) :
    s.skip? pos = s.skipItem next item := by
  obtain ⟨⟨kind, size, start⟩, hhead, hcontent⟩ := Option.bind_eq_some_iff.mp h
  rw [skip?_eq_of_head? hhead]
  cases kind with
  | pointer =>
    obtain ⟨⟨target, after⟩, hpointer, heq⟩ := Option.map_eq_some_iff.mp hcontent
    cases heq
    show (s.pointer? size start).bind _ = _
    rw [hpointer]
    exact Option.map_eq_bind.symm
  | text | bytes =>
    obtain ⟨_, -, heq⟩ := Option.map_eq_some_iff.mp hcontent
    cases heq
    rfl
  | double | float =>
    obtain ⟨rfl, rfl⟩ := eq_add_of_fixed? hcontent
    rfl
  | unsigned16 | unsigned32 | signed32 | unsigned64 | unsigned128 =>
    obtain ⟨⟨n, after⟩, hbounded, heq⟩ := Option.map_eq_some_iff.mp hcontent
    cases heq
    rw [eq_add_of_bounded? hbounded]
    rfl
  | map | array =>
    cases hcontent
    rfl
  | flag =>
    have hflag : (if size ≤ 1 then some (Item.flag, start) else none) = some (item, next) :=
      hcontent
    split at hflag <;> cases hflag
    rfl

end Section
end EgressPolicy
