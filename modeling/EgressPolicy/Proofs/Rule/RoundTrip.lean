/-
EgressPolicy/Proofs/Rule/RoundTrip.lean

Which rules their own text reads back as.

The text of a rule is a few words between single spaces: an action, a kind of
condition, the condition's value and the action's target, as far as there are
any.  If they really are words, reading the text cuts it into them again and
hands the value to the reader of its kind.  That reader changes nothing about
a value in normal form, except that a suffix loses a leading dot.  Every rule
that reading produces is in normal form, so nothing else reads back
(`parse_render_eq_iff`).
-/
import Mathlib
import EgressPolicy.Proofs.Rule.Stored

namespace EgressPolicy

open Text

/-! ### Well-formed rules -/

/-- No suffix with a dot in front. -/
def Condition.Undotted : Condition → Prop
  | domainSuffix suffix => suffix.toList.head? ≠ some '.'
  | _ => True

instance : DecidablePred Condition.Undotted
  | .domainSuffix suffix => inferInstanceAs (Decidable (suffix.toList.head? ≠ some '.'))
  | .domain _ | .cidr _ | .country _ | .all => inferInstanceAs (Decidable True)

/-- The fields are in normal form, and a suffix does not start with a dot. -/
def Rule.WellFormed (r : Rule) : Prop := r.Stored ∧ r.condition.Undotted

instance : DecidablePred Rule.WellFormed := fun r =>
  inferInstanceAs (Decidable (r.Stored ∧ r.condition.Undotted))

/-! ### The words of a rule -/

/-- The kind that a line has to name for the condition. -/
def Condition.kind : Condition → Kind
  | domain _ => .domain
  | domainSuffix _ => .domainSuffix
  | cidr _ => .cidr
  | country _ => .country
  | all => .all

theorem Condition.keyword_eq (c : Condition) : c.keyword = c.kind.word := by
  cases c <;> rfl

/-- The verb that a line has to name for the action. -/
def Action.verb : Action → Verb
  | direct => .direct
  | proxy => .proxy
  | block => .block
  | hijack _ => .hijack

theorem Action.keyword_eq (a : Action) : a.keyword = a.verb.word := by
  cases a <;> rfl

/-- The words that a rule line has for the condition. -/
def Condition.words : Condition → List String
  | all => ["all"]
  | c => [c.keyword, c.value]

/-- The words that a rule line has after the condition. -/
def Action.targets : Action → List String
  | hijack target => [target]
  | _ => []

/-- The words of a rule's line. -/
def Rule.words (r : Rule) : List String :=
  r.action.keyword :: (r.condition.words ++ r.action.targets)

theorem Condition.render_eq (c : Condition) : c.render = " ".intercalate c.words := by
  have hpair : ∀ s t : String, s ++ " " ++ t = " ".intercalate [s, t] := by
    intro s t
    rw [String.intercalate_cons_cons, String.intercalate_singleton]
  cases c with
  | all => exact String.intercalate_singleton.symm
  | _ => exact hpair _ _

/-- The line has one space between any two words. -/
theorem Rule.render_eq (r : Rule) : r.render = " ".intercalate r.words := by
  obtain ⟨a, c⟩ := r
  have hne : c.words ≠ [] := by cases c <;> exact List.cons_ne_nil _ _
  have hplain : ∀ s : String, s ++ " " ++ c.render = " ".intercalate (s :: (c.words ++ [])) := by
    intro s
    rw [List.append_nil, String.intercalate_cons_of_ne_nil hne, c.render_eq]
  cases a with
  | hijack target =>
    show "hijack " ++ c.render ++ " " ++ target
      = " ".intercalate ("hijack" :: (c.words ++ [target]))
    rw [String.intercalate_cons_of_ne_nil (by simp),
      String.intercalate_append_of_ne_nil hne (List.cons_ne_nil _ _), ← c.render_eq,
      String.intercalate_singleton]
    simp [String.append_assoc]
  | _ => exact hplain _

theorem Kind.isWord_word (k : Kind) : IsWord k.word := by
  cases k <;> decide

theorem Verb.isWord_word (v : Verb) : IsWord v.word := by
  cases v <;> decide

/-- The words of a condition in normal form are words. -/
theorem Condition.Stored.isWord_of_mem_words {c : Condition} (h : c.Stored) {w : String}
    (hw : w ∈ c.words) : IsWord w := by
  have hvalue : c.words = [c.keyword, c.value] → IsWord c.value → IsWord w := by
    intro hwords hv
    rw [hwords] at hw
    rcases List.mem_pair.mp hw with rfl | rfl
    · exact c.keyword_eq ▸ c.kind.isWord_word
    · exact hv
  cases c with
  | domain name => exact hvalue rfl h.1
  | domainSuffix suffix => exact hvalue rfl h.1
  | cidr network =>
    exact hvalue rfl ⟨network.render_ne_empty, fun _ => Network.not_blank_of_mem_render⟩
  | country code => exact hvalue rfl h.1
  | all =>
    rw [List.mem_singleton.mp hw]
    exact Kind.all.isWord_word

theorem Action.Stored.isWord_of_mem_targets {a : Action} (h : a.Stored) {w : String}
    (hw : w ∈ a.targets) : IsWord w := by
  cases a with
  | hijack target =>
    rw [List.mem_singleton.mp hw]
    exact h
  | direct => cases hw
  | proxy => cases hw
  | block => cases hw

theorem Rule.Stored.isWord_of_mem_words {r : Rule} (h : r.Stored) :
    ∀ w ∈ r.words, IsWord w := by
  intro w hw
  rcases List.mem_cons.mp hw with rfl | hw
  · exact r.action.keyword_eq ▸ r.action.verb.isWord_word
  rcases List.mem_append.mp hw with hw | hw
  · exact h.1.isWord_of_mem_words hw
  · exact h.2.isWord_of_mem_targets hw

/-! ### Reading the words -/

theorem Kind.ofField?_word (k : Kind) : ofField? k.word = some k := by
  cases k <;> decide +kernel

theorem Verb.ofField?_word (v : Verb) : ofField? v.word = some v := by
  cases v <;> decide +kernel

/-- The words of an action read back as the action. -/
theorem Action.read_keyword (a : Action) (about : String) :
    Action.read a.keyword about a.targets = .ok (a, []) := by
  rw [read, keyword_eq, Verb.ofField?_word]
  cases a <;> rfl

/-- Lowering what is left of a suffix gives the suffix back only if nothing was
taken from it. -/
theorem lower_withoutDot_eq_self_iff {s : String} (h : ∀ c ∈ s.toList, c.isUpper = false) :
    lower (withoutDot s) = s ↔ s.toList.head? ≠ some '.' := by
  by_cases hdot : s.toList.head? = some '.'
  · obtain ⟨t, rfl⟩ := exists_eq_dot_append hdot
    -- what is left is shorter, and lowering does not lengthen it
    have hlen : lower t ≠ "." ++ t := by
      intro hs
      have hcount := congrArg (fun t : String => t.toList.length) hs
      simp [toList_lower] at hcount
    simp [hlen]
  · rw [withoutDot_of_head?_ne hdot, lower_eq_self h]
    exact iff_of_true rfl hdot

/-- The value of a condition in normal form is taken as it is, except that a
suffix loses a leading dot. -/
theorem Condition.Stored.read_iff {c : Condition} (h : c.Stored) :
    Condition.read c.keyword c.value = .ok c ↔ c.Undotted := by
  rw [read, keyword_eq, Kind.ofField?_word]
  show c.kind.condition c.value = .ok c ↔ c.Undotted
  cases c with
  | domain name =>
    refine iff_of_true ?_ trivial
    show Kind.domain.condition name = .ok (domain name)
    rw [Kind.condition, if_neg h.1.1, lower_eq_self h.2]
  | domainSuffix suffix =>
    show Kind.domainSuffix.condition suffix = .ok (domainSuffix suffix) ↔ _
    rw [Undotted, ← lower_withoutDot_eq_self_iff h.2, Kind.condition]
    by_cases hne : withoutDot suffix = ""
    · -- a lone dot is refused, and lowering what is left of it does not bring it back
      have hlower : lower (withoutDot suffix) ≠ suffix := by
        rw [hne, lower_eq_self (by simp)]
        exact h.1.1.symm
      rw [if_pos hne]
      simp [hlower]
    · simp [hne]
  | cidr network =>
    refine iff_of_true ?_ trivial
    show Kind.cidr.condition network.render = .ok (cidr network)
    rw [Kind.condition, Network.ofString?_render]
    show Except.ok (cidr network.truncate) = .ok (cidr network)
    rw [Network.truncate_eq_self_iff.mpr h]
  | country code =>
    refine iff_of_true ?_ trivial
    show Kind.country.condition code = .ok (country code)
    rw [Kind.condition, if_neg h.1.1, upper_eq_self h.2]
  | all => exact iff_of_true rfl trivial

namespace Rule

/-- The words of a rule are taken for what they stand for. -/
theorem ofFields_words (r : Rule) :
    ofFields r.words = assemble r.action.keyword r.condition.keyword r.condition.value
      r.condition.render r.action.targets := by
  have hall : ∀ k : Kind, sameLetters k.word "all" = decide (k = .all) := by
    intro k
    cases k <;> decide +kernel
  have hkind := hall r.condition.kind
  rw [← Condition.keyword_eq] at hkind
  obtain ⟨a, c⟩ := r
  cases c with
  | all =>
    simp [words, ofFields, Condition.words, Condition.keyword, Condition.value,
      Condition.render]
  | _ =>
    simp [words, ofFields, hkind, Condition.words, Condition.kind, Condition.value,
      Condition.render]

/-- The line of a rule in normal form reads back as that rule, unless it has a
suffix that starts with a dot. -/
theorem Stored.parse_render_iff {r : Rule} (h : r.Stored) :
    parse r.render = .ok r ↔ r.condition.Undotted := by
  rw [parse, render_eq, fields_intercalate h.isWord_of_mem_words, ofFields_words,
    assemble_eq_ok_iff, Action.read_keyword, h.1.read_iff]
  simp

/-- The line of a rule reads back as that rule exactly if the rule is
well-formed. -/
theorem parse_render_eq_iff (r : Rule) : parse r.render = .ok r ↔ r.WellFormed := by
  constructor
  · intro h
    have hstored := stored_of_parse h
    exact ⟨hstored, hstored.parse_render_iff.mp h⟩
  · rintro ⟨hstored, hdot⟩
    exact hstored.parse_render_iff.mpr hdot

example : Rule.WellFormed ⟨.hijack "10.0.0.1", .domainSuffix "cn"⟩ := by decide

example : ¬ Rule.WellFormed ⟨.direct, .domainSuffix ".cn"⟩ := by decide

end Rule
end EgressPolicy
