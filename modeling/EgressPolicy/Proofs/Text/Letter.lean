/-
EgressPolicy/Proofs/Text/Letter.lean

What stays as it is when the letters of a text change their case.

Lowering works character by character, and what is not a letter neither comes
nor goes by it (`toLower_eq_iff`).  So where the separators are not letters it
makes no difference whether a text is lowered before it is cut or its pieces
are lowered afterwards (`splitOn_map_toLower`, `cutFirst?_map_toLower`).  A
digit has the same value in both cases, and so has every number
(`readNat?_map_toLower`).
-/
import Mathlib
import EgressPolicy.Text.Letter
import EgressPolicy.Text.Numeral
import EgressPolicy.Text.Split

namespace EgressPolicy.Text

/-! ### Texts in the same letters -/

/-- Texts are compared character by character. -/
theorem sameLetters_iff_map {s t : String} :
    sameLetters s t = true ↔ s.toList.map Char.toLower = t.toList.map Char.toLower := by
  rw [sameLetters_iff, ← String.toList_inj, toList_lower, toList_lower]

/-- Of some items with a word each, a field finds the one whose word it is in
other letters, if that word finds it. -/
theorem find?_sameLetters_iff {α : Type} {word : α → String} {items : List α} {a : α}
    (ha : items.find? (fun b => sameLetters (word a) (word b)) = some a) {field : String} :
    items.find? (fun b => sameLetters field (word b)) = some a ↔
      sameLetters field (word a) = true := by
  constructor
  · intro h
    exact List.find?_some (p := fun b => sameLetters field (word b)) h
  · intro h
    rw [← ha]
    simp only [sameLetters, sameLetters_iff.mp h]

theorem lower_eq_empty_iff {s : String} : lower s = "" ↔ s = "" := by
  rw [← String.toList_eq_nil_iff, toList_lower, List.map_eq_nil_iff, String.toList_eq_nil_iff]

/-- Raising undoes lowering. -/
@[simp] theorem upper_lower (s : String) : upper (lower s) = upper s := by
  rw [← String.toList_inj, toList_upper, toList_lower, toList_upper, List.map_map]
  exact List.map_congr_left fun c _ => c.toUpper_toLower_eq_toUpper

section
variable {s t : String} (h : sameLetters s t = true)
include h

theorem eq_empty_congr : s = "" ↔ t = "" := by
  rw [← lower_eq_empty_iff, sameLetters_iff.mp h, lower_eq_empty_iff]

theorem upper_congr : upper s = upper t := by
  rw [← upper_lower s, sameLetters_iff.mp h, upper_lower]

end

/-- What is not a letter neither comes nor goes by lowering. -/
theorem toLower_eq_iff {sep : Char} (hsep : sep.isAlpha = false) (c : Char) :
    c.toLower = sep ↔ c = sep := by
  have hstays : ∀ x : Char, x.isAlpha = false → x.toLower = x := by
    intro x hx
    rw [Char.isAlpha, Bool.or_eq_false_iff] at hx
    exact Char.toLower_eq_of_not_isUpper (by simp [hx.1])
  constructor
  · rintro rfl
    rw [c.isAlpha_toLower_eq_isAlpha] at hsep
    exact (hstays c hsep).symm
  · rintro rfl
    exact hstays c hsep

theorem head?_map_toLower_eq_iff {sep : Char} (hsep : sep.isAlpha = false) {cs : List Char} :
    (cs.map Char.toLower).head? = some sep ↔ cs.head? = some sep := by
  rw [List.head?_map, Option.map_eq_some_iff]
  simp [toLower_eq_iff hsep]

/-! ### Cuts -/

/-- A text is cut at the same places when it is lowered. -/
theorem splitOn_map_toLower {sep : Char} (hsep : sep.isAlpha = false) (cs : List Char) :
    (cs.map Char.toLower).splitOn sep = (cs.splitOn sep).map (List.map Char.toLower) := by
  induction cs with
  | nil => simp
  | cons c cs ih =>
    rw [List.map_cons, List.splitOn_cons_eq_if_modifyHead, List.splitOn_cons_eq_if_modifyHead, ih]
    by_cases hc : c = sep
    · subst hc
      simp [(toLower_eq_iff hsep c).mpr rfl]
    · have hlower : c.toLower ≠ sep := mt (toLower_eq_iff hsep c).mp hc
      obtain ⟨p, ps, hps⟩ := List.exists_cons_of_ne_nil (List.splitOn_ne_nil sep cs)
      simp [hc, hlower, hps]

section
variable {sep : List Char} (hsep : ∀ s ∈ sep, s.isAlpha = false)
include hsep

theorem dropStart?_map_toLower (cs : List Char) :
    dropStart? sep (cs.map Char.toLower) = (dropStart? sep cs).map (List.map Char.toLower) := by
  induction sep generalizing cs with
  | nil => rfl
  | cons s sep ih =>
    rcases cs with - | ⟨c, cs⟩
    · rfl
    · have hs : s = c.toLower ↔ s = c := by
        rw [eq_comm, toLower_eq_iff (hsep s List.mem_cons_self), eq_comm]
      rw [List.map_cons, dropStart?, dropStart?,
        ih fun x hx => hsep x (List.mem_cons_of_mem _ hx)]
      simp only [hs]
      split <;> rfl

/-- A text is cut in two at the same place when it is lowered. -/
theorem cutFirst?_map_toLower (cs : List Char) :
    cutFirst? sep (cs.map Char.toLower)
      = (cutFirst? sep cs).map fun p => (p.1.map Char.toLower, p.2.map Char.toLower) := by
  induction cs with
  | nil => rcases sep with - | ⟨s, sep⟩ <;> rfl
  | cons c cs ih =>
    have hdrop := dropStart?_map_toLower hsep (c :: cs)
    rw [List.map_cons] at hdrop ⊢
    rw [cutFirst?, cutFirst?, hdrop, ih]
    rcases dropStart? sep (c :: cs) with - | rest
    · simp [Function.comp_def]
    · rfl

end

/-! ### Numbers -/

theorem digitValue?_toLower (c : Char) : digitValue? c.toLower = digitValue? c := by
  by_cases h : c.isUpper = true
  · have hcapitals : ∀ n < 26, digitValue? (Char.ofNat (65 + n)).toLower
        = digitValue? (Char.ofNat (65 + n)) := by decide
    have hnat : 65 ≤ c.toNat ∧ c.toNat ≤ 90 := by
      simpa [Char.isUpper, UInt32.le_iff_toNat_le, ← Char.toNat_val] using h
    have hc := hcapitals (c.toNat - 65) (by omega)
    rwa [Nat.add_sub_cancel' hnat.1, Char.ofNat_toNat] at hc
  · rw [Char.toLower_eq_of_not_isUpper h]

theorem digitIn?_toLower (base : Nat) (c : Char) : digitIn? base c.toLower = digitIn? base c := by
  rw [digitIn?, digitIn?, digitValue?_toLower]

/-- Digits in both cases write the same number. -/
@[simp] theorem readNat?_map_toLower (base : Nat) (cs : List Char) :
    readNat? base (cs.map Char.toLower) = readNat? base cs := by
  simp [readNat?, List.foldlM_map, digitIn?_toLower]

end EgressPolicy.Text
