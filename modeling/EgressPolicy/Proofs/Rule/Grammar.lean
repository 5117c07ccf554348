/-
EgressPolicy/Proofs/Rule/Grammar.lean

Which words make a rule.

The second word of a line names the kind of its condition and the third one is
the value, which `all` never looks at; the first word names the action, and
what the action takes has to be all that is left (`ofFields_eq_ok_iff`).  So
a rule's condition is what its line's kind makes of its line's value
(`condition_of_parse`).
-/
import Mathlib
import EgressPolicy.Proofs.Rule.RoundTrip
import EgressPolicy.Proofs.Text.Letter

namespace EgressPolicy

open Text

/-! ### Keywords -/

theorem Kind.ofField?_eq_some_iff {field : String} {k : Kind} :
    ofField? field = some k ↔ sameLetters field k.word = true :=
  find?_sameLetters_iff k.ofField?_word

theorem Verb.ofField?_eq_some_iff {field : String} {v : Verb} :
    ofField? field = some v ↔ sameLetters field v.word = true :=
  find?_sameLetters_iff v.ofField?_word

theorem Condition.read_eq_ok_iff {kind value : String} {c : Condition} :
    Condition.read kind value = .ok c ↔
      ∃ k, Kind.ofField? kind = some k ∧ k.condition value = .ok c := by
  rw [read]
  rcases Kind.ofField? kind with - | k <;> simp

theorem Action.read_eq_ok_iff {verb about : String} {rest extra : List String} {a : Action} :
    Action.read verb about rest = .ok (a, extra) ↔
      ∃ v, Verb.ofField? verb = some v ∧ v.action about rest = .ok (a, extra) := by
  rw [read]
  rcases Verb.ofField? verb with - | v <;> simp

/-- What an action takes does not depend on what is said if there is nothing to take. -/
theorem Verb.action_eq_ok_congr {v : Verb} {about about' : String} {rest extra : List String}
    {a : Action} :
    v.action about rest = .ok (a, extra) ↔ v.action about' rest = .ok (a, extra) := by
  cases v with
  | hijack => rcases rest with - | ⟨target, rest⟩ <;> simp [action]
  | _ => exact Iff.rfl

/-! ### Lines -/

namespace Rule

/-- The words that a line is cut into. -/
def wordsOf (line : String) : List String := (fields line.toList).map String.ofList

/-- The kind of condition that the second word of a line names. -/
def kindOf? (line : String) : Option Kind := (wordsOf line)[1]?.bind Kind.ofField?

/-- The third word of a line, and nothing if there is none. -/
def valueOf (line : String) : String := (wordsOf line)[2]?.getD ""

/-- The words that make a rule: an action, a kind, the kind's value if it has
one, and what the action takes, to the last word. -/
theorem ofFields_eq_ok_iff {verb kind : String} {rest : List String} {r : Rule} :
    ofFields (verb :: kind :: rest) = .ok r ↔
      ∃ v k, Verb.ofField? verb = some v ∧ Kind.ofField? kind = some k ∧
        k.condition (rest.headD "") = .ok r.condition ∧
        v.action "" (if k = .all then rest else rest.tail) = .ok (r.action, []) := by
  have hall : sameLetters kind "all" = true ↔ Kind.ofField? kind = some .all :=
    (Kind.ofField?_eq_some_iff (k := .all)).symm
  rw [ofFields]
  split
  · -- the one kind that is told by its word alone: it has no value, and takes any
    rename_i h
    have hkind := hall.mp h
    rw [assemble_eq_ok_iff, Condition.read_eq_ok_iff, Action.read_eq_ok_iff, hkind]
    constructor
    · rintro ⟨⟨k, hk, hc⟩, v, hv, ha⟩
      cases hk
      exact ⟨v, .all, hv, rfl, hc, Verb.action_eq_ok_congr.mp ha⟩
    · rintro ⟨v, k, hv, hk, hc, ha⟩
      cases hk
      exact ⟨⟨.all, rfl, hc⟩, v, hv, Verb.action_eq_ok_congr.mp ha⟩
  · rename_i h
    have hne : ∀ k, Kind.ofField? kind = some k → k ≠ .all := by
      rintro k hk rfl
      exact h (hall.mpr hk)
    rw [assemble_eq_ok_iff, Condition.read_eq_ok_iff, Action.read_eq_ok_iff]
    constructor
    · rintro ⟨⟨k, hk, hc⟩, v, hv, ha⟩
      refine ⟨v, k, hv, hk, hc, ?_⟩
      rw [if_neg (hne k hk)]
      exact Verb.action_eq_ok_congr.mp ha
    · rintro ⟨v, k, hv, hk, hc, ha⟩
      rw [if_neg (hne k hk)] at ha
      exact ⟨⟨k, hk, hc⟩, v, hv, Verb.action_eq_ok_congr.mp ha⟩

theorem ofFields_words_eq_ok_iff {v : Verb} {k : Kind} {rest : List String} {r : Rule} :
    ofFields (v.word :: k.word :: rest) = .ok r ↔
      k.condition (rest.headD "") = .ok r.condition ∧
        v.action "" (if k = .all then rest else rest.tail) = .ok (r.action, []) := by
  simp [ofFields_eq_ok_iff, Verb.ofField?_word, Kind.ofField?_word]

/-- A line that holds a rule has two words at least. -/
theorem exists_wordsOf_of_parse {line : String} {r : Rule} (h : parse line = .ok r) :
    ∃ verb kind rest, wordsOf line = verb :: kind :: rest ∧
      ofFields (verb :: kind :: rest) = .ok r := by
  have hwords : ofFields (wordsOf line) = .ok r := h
  rcases hw : wordsOf line with - | ⟨verb, - | ⟨kind, rest⟩⟩
  · rw [hw] at hwords
    cases hwords
  · rw [hw] at hwords
    cases hwords
  · exact ⟨verb, kind, rest, rfl, hw ▸ hwords⟩

/-- The condition of a rule is what the kind that its line names makes of the
value that stands there. -/
theorem condition_of_parse {line : String} {r : Rule} (h : parse line = .ok r) :
    ∃ k, kindOf? line = some k ∧ k.condition (valueOf line) = .ok r.condition := by
  obtain ⟨verb, kind, rest, hwords, hr⟩ := exists_wordsOf_of_parse h
  obtain ⟨-, k, -, hk, hc, -⟩ := ofFields_eq_ok_iff.mp hr
  have hvalue : valueOf line = rest.headD "" := by
    rw [valueOf, hwords, List.headD_eq_head?_getD, List.head?_eq_getElem?]
    rfl
  refine ⟨k, ?_, ?_⟩
  · rw [kindOf?, hwords]
    exact hk
  · rw [hvalue]
    exact hc

theorem condition_of_parse_kind {line : String} {r : Rule} {k : Kind} (h : parse line = .ok r)
    (hkind : kindOf? line = some k) : k.condition (valueOf line) = .ok r.condition := by
  obtain ⟨k', hk', hc⟩ := condition_of_parse h
  obtain rfl : k = k' := Option.some.inj (hkind.symm.trans hk')
  exact hc

end Rule
end EgressPolicy
