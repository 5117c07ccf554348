/-
EgressPolicy/Proofs/Text/Cut.lean

Where a text is cut that was put together around a separator.

The first cut is at the separator if nothing in front of it starts one
(`cutFirst?_append_sep`), and only there if the separator is a single character
(`cutFirst?_eq_some_iff`); the last cut is at it if there is none behind it
(`cutLast?_append_sep`).  A cut at every separator gives the two parts back if
it gives two at all (`eq_of_splitOn_append_cons`).  So a first word without a
space is told by the text that it starts (`intercalate_word_cons_inj`).
-/
import Mathlib
import EgressPolicy.Proofs.Text.Pieces

namespace EgressPolicy.Text

/-- A text in which no separator starts is not cut. -/
theorem cutFirst?_eq_none_of_notMem {s : Char} (sep : List Char) {cs : List Char} (h : s ∉ cs) :
    cutFirst? (s :: sep) cs = none := by
  have hcut := cutFirst?_append_of_not_mem sep h []
  rw [List.append_nil] at hcut
  rw [hcut]
  rfl

/-- The cut is at the separator that stands behind a text in which none starts. -/
theorem cutFirst?_append_sep {s : Char} (sep : List Char) {before : List Char} (h : s ∉ before)
    (after : List Char) :
    cutFirst? (s :: sep) (before ++ (s :: sep ++ after)) = some (before, after) := by
  have hhere : cutFirst? (s :: sep) (s :: sep ++ after) = some ([], after) := by
    rw [List.cons_append, cutFirst?, ← List.cons_append, dropStart?_append]
  rw [cutFirst?_append_of_not_mem sep h, hhere, Option.map_some, List.append_nil]

/-- The same where the separator is a single character. -/
theorem cutFirst?_append_cons {s : Char} {before : List Char} (h : s ∉ before)
    (after : List Char) : cutFirst? [s] (before ++ s :: after) = some (before, after) :=
  cutFirst?_append_sep [] h after

/-- A text is cut at the first of its separators. -/
theorem cutFirst?_eq_some_iff {s : Char} {cs before after : List Char} :
    cutFirst? [s] cs = some (before, after) ↔ cs = before ++ s :: after ∧ s ∉ before := by
  constructor
  · intro h
    have hmem : s ∈ cs := by simp [eq_of_cutFirst? h]
    obtain ⟨before', after', rfl, hbefore⟩ := List.eq_append_cons_of_mem hmem
    rw [cutFirst?_append_cons hbefore] at h
    obtain ⟨rfl, rfl⟩ := Prod.mk.inj (Option.some.inj h)
    exact ⟨rfl, hbefore⟩
  · rintro ⟨rfl, h⟩
    exact cutFirst?_append_cons h after

theorem cutFirst?_eq_none_iff {s : Char} {cs : List Char} : cutFirst? [s] cs = none ↔ s ∉ cs := by
  constructor
  · intro h hmem
    obtain ⟨before, after, rfl, hbefore⟩ := List.eq_append_cons_of_mem hmem
    rw [cutFirst?_append_cons hbefore] at h
    cases h
  · exact cutFirst?_eq_none_of_notMem []

/-- The last cut is at the separator behind which there is none. -/
theorem cutLast?_append_sep {sep : Char} (before : List Char) {after : List Char}
    (h : sep ∉ after) : cutLast? sep (before ++ sep :: after) = some (before, after) := by
  induction before with
  | nil => rw [List.nil_append, cutLast?, cutLast?_eq_none_iff.mpr h, if_pos rfl]
  | cons c before ih => rw [List.cons_append, cutLast?, ih]

/-- A text around a separator that is cut in two has no other separator. -/
theorem eq_of_splitOn_append_cons {sep : Char} {before after b a : List Char}
    (h : (before ++ sep :: after).splitOn sep = [b, a]) : before = b ∧ after = a := by
  rw [List.splitOn_append_cons_self] at h
  -- each part is cut into one piece at least
  obtain ⟨x, xs, hx⟩ := List.exists_cons_of_ne_nil (List.splitOn_ne_nil sep before)
  obtain ⟨y, ys, hy⟩ := List.exists_cons_of_ne_nil (List.splitOn_ne_nil sep after)
  rw [hx, hy] at h
  have hcount := congrArg List.length h
  simp only [List.length_append, List.length_cons, List.length_nil] at hcount
  obtain rfl : xs = [] := List.eq_nil_of_length_eq_zero (by omega)
  obtain rfl : ys = [] := List.eq_nil_of_length_eq_zero (by omega)
  simp only [List.cons_append, List.nil_append, List.cons.injEq, and_true] at h
  have hbefore : [sep].intercalate (before.splitOn sep) = before := List.intercalate_splitOn sep
  have hafter : [sep].intercalate (after.splitOn sep) = after := List.intercalate_splitOn sep
  rw [hx, List.intercalate_singleton, h.1] at hbefore
  rw [hy, List.intercalate_singleton, h.2] at hafter
  exact ⟨hbefore.symm, hafter.symm⟩

/-! ### Words between spaces -/

/-- What follows a first word, whatever that is, is known if the word is. -/
theorem intercalate_cons_inj {s : String} {ws ws' : List String} (hne : ws ≠ []) (hne' : ws' ≠ []) :
    " ".intercalate (s :: ws) = " ".intercalate (s :: ws') ↔
      " ".intercalate ws = " ".intercalate ws' := by
  rw [String.intercalate_cons_of_ne_nil hne, String.intercalate_cons_of_ne_nil hne',
    ← String.toList_inj, ← String.toList_inj]
  simp

/-- A first word without a space ends at the first space. -/
theorem intercalate_word_cons_inj {w w' : String} {ws ws' : List String} (hw : ' ' ∉ w.toList)
    (hw' : ' ' ∉ w'.toList) (hne : ws ≠ []) (hne' : ws' ≠ []) :
    " ".intercalate (w :: ws) = " ".intercalate (w' :: ws') ↔
      w = w' ∧ " ".intercalate ws = " ".intercalate ws' := by
  constructor
  · intro h
    have hcut : ∀ {w : String} {ws : List String}, ' ' ∉ w.toList → ws ≠ [] →
        cutFirst? [' '] (" ".intercalate (w :: ws)).toList
          = some (w.toList, (" ".intercalate ws).toList) := by
      intro w ws hw hne
      rw [String.intercalate_cons_of_ne_nil hne, cutFirst?_eq_some_iff]
      exact ⟨by simp, hw⟩
    have hboth := hcut hw hne
    rw [h, hcut hw' hne'] at hboth
    obtain ⟨hword, hrest⟩ := Prod.mk.inj (Option.some.inj hboth)
    exact ⟨(String.toList_inj.mp hword).symm, (String.toList_inj.mp hrest).symm⟩
  · rintro ⟨rfl, h⟩
    exact (intercalate_cons_inj hne hne').mpr h

end EgressPolicy.Text
