/-
EgressPolicy/Proofs/Rule/NormalForm.lean

The normal form of what is read, and the one thing that it leaves out.

Every field of a rule that was read from a line is in normal form
(`Rule.Stored`), and what an `ip` line stores is the network of one address.  A
suffix is meant to have no dot in front; but only one dot is taken away, so
one that is written with two dots keeps a dot.  These lines
(`Rule.HasTwoDots`) are exactly those whose rule does not read back from its
own text (`normal_form_of_parse`).
-/
import Mathlib
import EgressPolicy.Proofs.Rule.Grammar
import EgressPolicy.Proofs.Text.Letter

namespace EgressPolicy

open Text

/-! ### Leading dots -/

/-- A dot is left in front where there were two. -/
theorem head?_withoutDot_eq_dot_iff {s : String} :
    (withoutDot s).toList.head? = some '.' ↔ ['.', '.'] <+: s.toList := by
  by_cases hdot : s.toList.head? = some '.'
  · obtain ⟨t, rfl⟩ := exists_eq_dot_append hdot
    have ht : ("." ++ t).toList = '.' :: t.toList := by simp
    rw [withoutDot_dot_append, ht, List.cons_prefix_cons]
    rcases t.toList with - | ⟨c, cs⟩
    · simp
    · simp [eq_comm]
  · rw [withoutDot_of_head?_ne hdot]
    refine iff_of_false hdot ?_
    rintro ⟨cs, hcs⟩
    exact hdot (by rw [← hcs]; rfl)

/-- A condition has a suffix with a leading dot if it is made from one with two. -/
theorem Kind.undotted_iff_of_condition {k : Kind} {value : String} {c : Condition}
    (h : k.condition value = .ok c) :
    c.Undotted ↔ ¬ (k = .domainSuffix ∧ ['.', '.'] <+: value.toList) := by
  by_cases hk : k = .domainSuffix
  · subst hk
    obtain ⟨-, rfl⟩ := domainSuffix_condition_eq_ok_iff.mp h
    rw [Condition.Undotted, Ne, toList_lower,
      head?_map_toLower_eq_iff (by decide), head?_withoutDot_eq_dot_iff]
    simp
  · have hother : c.Undotted := by
      cases k with
      | domainSuffix => exact absurd rfl hk
      | all =>
        cases h
        trivial
      | _ =>
        simp only [condition] at h
        split at h <;> cases h
        trivial
    simp [hk, hother]

/-! ### Lines -/

namespace Rule

/-- The line writes a suffix with two dots in front. -/
def HasTwoDots (line : String) : Prop :=
  kindOf? line = some .domainSuffix ∧ ['.', '.'] <+: (valueOf line).toList

instance : DecidablePred HasTwoDots := fun line =>
  inferInstanceAs (Decidable (_ ∧ ['.', '.'] <+: (valueOf line).toList))

theorem undotted_iff_of_parse {line : String} {r : Rule} (h : parse line = .ok r) :
    r.condition.Undotted ↔ ¬ HasTwoDots line := by
  obtain ⟨k, hk, hc⟩ := condition_of_parse h
  rw [Kind.undotted_iff_of_condition hc, HasTwoDots, hk, Option.some_inj]

/-- The rule of an `ip` line is about the one address that the line names. -/
theorem condition_of_parse_ip {line : String} {r : Rule} (h : parse line = .ok r)
    (hip : kindOf? line = some .ip) :
    ∃ ip, Ip.ofString? (valueOf line) = some ip ∧ r.condition = .cidr (.single ip.canonical) :=
  Kind.ip_condition_eq_ok_iff.mp (condition_of_parse_kind h hip)

/-- **What is read is in normal form, up to a leading dot.**  All fields are
in normal form and a single address is stored as such.  A suffix has no leading
dot and the rule reads back from its own text, unless the line has two dots in
front of its suffix; then neither is so. -/
theorem normal_form_of_parse {line : String} {r : Rule} (h : parse line = .ok r) :
    r.Stored ∧
    (kindOf? line = some .ip →
      ∃ ip, Ip.ofString? (valueOf line) = some ip ∧
        r.condition = .cidr (.single ip.canonical)) ∧
    (r.condition.Undotted ↔ ¬ HasTwoDots line) ∧
    (parse r.render = .ok r ↔ ¬ HasTwoDots line) := by
  have hstored := stored_of_parse h
  have hdot := undotted_iff_of_parse h
  exact ⟨hstored, condition_of_parse_ip h, hdot, hstored.parse_render_iff.trans hdot⟩

/-- One dot is taken away, and the text of the rule reads as it should. -/
theorem normal_form_of_parse_dotted :
    parse "block domain-suffix .Apple.com" = .ok ⟨.block, .domainSuffix "apple.com"⟩ ∧
    ¬ HasTwoDots "block domain-suffix .Apple.com" ∧
    parse (Rule.render ⟨.block, .domainSuffix "apple.com"⟩)
      = .ok ⟨.block, .domainSuffix "apple.com"⟩ := by
  have h : parse "block domain-suffix .Apple.com" = .ok ⟨.block, .domainSuffix "apple.com"⟩ := by
    decide +kernel
  have hdot : ¬ HasTwoDots "block domain-suffix .Apple.com" := by
    decide +kernel
  exact ⟨h, hdot, (normal_form_of_parse h).2.2.2.mpr hdot⟩

/-- Of two dots one is kept, and the next reading takes that one too. -/
theorem suffix_keeps_dot :
    parse "block domain-suffix ..com" = .ok ⟨.block, .domainSuffix ".com"⟩ ∧
    ¬ (Condition.domainSuffix ".com").Undotted ∧
    parse (Rule.render ⟨.block, .domainSuffix ".com"⟩) = .ok ⟨.block, .domainSuffix "com"⟩ := by
  decide +kernel

end Rule
end EgressPolicy
