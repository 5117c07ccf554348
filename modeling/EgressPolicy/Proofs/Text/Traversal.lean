/-
EgressPolicy/Proofs/Text/Traversal.lean

Reading one thing after the other, up to the first that is refused.

What is read in two steps is read in the first of them (`exists_of_bind_eq_ok`),
and is what the second of them can give (`forall_mem_bind`).
A list reads if all its items do, and gives what they give, in order
(`mapM_eq_ok_iff`).  Otherwise it is refused just as its first refused item
is, and what stands behind that item plays no part (`mapM_eq_error_iff`); so
whether it reads is a matter of each item for itself (`exists_mapM_eq_ok_iff`).
-/
import Mathlib

namespace EgressPolicy.Text

variable {ε ε' α β : Type}

/-- What is bound to a result comes after a result. -/
theorem exists_of_bind_eq_ok {x : Except ε α} {f : α → Except ε β} {b : β}
    (h : x >>= f = .ok b) : ∃ a, x = .ok a ∧ f a = .ok b := by
  rcases x with e | a
  · cases h
  · exact ⟨a, rfl, h⟩

/-- What holds of all that a second step can give holds of what both steps give. -/
theorem forall_mem_bind {o : Option α} {f : α → Option β} {p : β → Prop}
    (h : ∀ a, ∀ b ∈ f a, p b) : ∀ b ∈ o.bind f, p b := by
  intro b hb
  obtain ⟨a, -, hb⟩ := Option.mem_bind_iff.mp hb
  exact h a b hb

/-- In other words a refusal is still a refusal. -/
theorem mapError_eq_ok_iff {x : Except ε α} {f : ε → ε'} {a : α} :
    x.mapError f = .ok a ↔ x = .ok a := by
  rcases x with e | a' <;> simp [Except.mapError]

/-- What is in the second of two related lists is related to something. -/
theorem exists_of_forall₂_of_mem {R : α → β → Prop} {xs : List α} {ys : List β} {y : β}
    (h : List.Forall₂ R xs ys) (hy : y ∈ ys) : ∃ x, R x y := by
  induction h with
  | nil => cases hy
  | cons hxy _ ih =>
    rcases List.mem_cons.mp hy with rfl | hy
    · exact ⟨_, hxy⟩
    · exact ih hy

/-- A list reads item by item. -/
theorem mapM_eq_ok_iff {f : α → Except ε β} {xs : List α} {ys : List β} :
    xs.mapM f = .ok ys ↔ List.Forall₂ (fun x y => f x = .ok y) xs ys := by
  induction xs generalizing ys with
  | nil => cases ys <;> simp [pure, Except.pure]
  | cons x xs ih =>
    rw [List.mapM_cons]
    rcases hx : f x with e | y
    · cases ys <;> simp [bind, Except.bind, hx]
    · rcases hxs : xs.mapM f with e | zs
      · cases ys <;> simp [bind, Except.bind, ← ih, hxs]
      · cases ys <;> simp [bind, Except.bind, pure, Except.pure, ← ih, hxs, hx]

/-- A list is refused as the first of its items that is refused. -/
theorem mapM_eq_error_iff {f : α → Except ε β} {xs : List α} {e : ε} :
    xs.mapM f = .error e ↔
      ∃ before x after, xs = before ++ x :: after ∧ (∀ b ∈ before, ∃ y, f b = .ok y) ∧
        f x = .error e := by
  induction xs with
  | nil => simp [pure, Except.pure]
  | cons x xs ih =>
    rw [List.mapM_cons]
    rcases hx : f x with e' | y
    · -- the head is refused, so nothing can stand in front of the refused item
      show Except.error e' = .error e ↔ _
      constructor
      · intro h
        cases h
        exact ⟨[], x, xs, rfl, by simp, hx⟩
      · rintro ⟨before, z, after, hsplit, hbefore, hz⟩
        rcases before with - | ⟨b, before⟩
        · obtain ⟨rfl, -⟩ := List.cons.inj hsplit
          exact congrArg Except.error (Except.error.inj (hx.symm.trans hz))
        · obtain ⟨rfl, -⟩ := List.cons.inj hsplit
          obtain ⟨y, hy⟩ := hbefore x List.mem_cons_self
          cases hx.symm.trans hy
    · have htail : (f x >>= fun y => xs.mapM f >>= fun ys => pure (y :: ys)) = .error e ↔
          xs.mapM f = .error e := by
        rw [hx]
        rcases xs.mapM f with e' | ys <;> simp [bind, Except.bind, pure, Except.pure]
      rw [← hx, htail, ih]
      constructor
      · rintro ⟨before, z, after, rfl, hbefore, hz⟩
        refine ⟨x :: before, z, after, rfl, ?_, hz⟩
        exact List.forall_mem_cons.mpr ⟨⟨y, hx⟩, hbefore⟩
      · rintro ⟨before, z, after, hsplit, hbefore, hz⟩
        rcases before with - | ⟨b, before⟩
        · obtain ⟨rfl, -⟩ := List.cons.inj hsplit
          cases hx.symm.trans hz
        · obtain ⟨rfl, rfl⟩ := List.cons.inj hsplit
          exact ⟨before, z, after, rfl, fun b hb => hbefore b (List.mem_cons_of_mem _ hb), hz⟩

/-- All that a list needs to be read is that each of its items is. -/
theorem exists_mapM_eq_ok_iff {f : α → Except ε β} {xs : List α} :
    (∃ ys, xs.mapM f = .ok ys) ↔ ∀ x ∈ xs, ∃ y, f x = .ok y := by
  constructor
  · rintro ⟨ys, h⟩ x hx
    rw [mapM_eq_ok_iff] at h
    exact exists_of_forall₂_of_mem h.flip hx
  · intro h
    rcases hread : xs.mapM f with e | ys
    · obtain ⟨before, x, after, rfl, -, hx⟩ := mapM_eq_error_iff.mp hread
      obtain ⟨y, hy⟩ := h x (by simp)
      cases hx.symm.trans hy
    · exact ⟨ys, rfl⟩

end EgressPolicy.Text
