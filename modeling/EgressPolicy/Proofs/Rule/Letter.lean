/-
EgressPolicy/Proofs/Rule/Letter.lean

Lines in the same letters.

Two texts are in the same letters if they differ in the case of letters at
most.  Of a line in other letters the keywords are the same, and its value
makes the same condition, because whatever a kind does with a value it does
for all texts in the same letters (`Kind.condition_congr`).  The one word that
is taken as it stands is a target.  So lines whose words are in the same
letters, one by one, are accepted together; and what is read is the same rule
exactly if the targets are the same (`Rule.letters_matter_only_in_target`).
How the words are spaced is never seen, since reading a line is reading its
words.
-/
import Mathlib
import EgressPolicy.Proofs.Ip.Letter
import EgressPolicy.Proofs.Rule.Grammar

namespace EgressPolicy

open Text

/-! ### Keywords and values -/

/-- The dot in front is no letter. -/
theorem withoutDot_lower (s : String) : withoutDot (lower s) = lower (withoutDot s) := by
  by_cases hdot : s.toList.head? = some '.'
  · obtain ⟨t, rfl⟩ := exists_eq_dot_append hdot
    have hlower : lower ("." ++ t) = "." ++ lower t := by
      rw [← String.toList_inj, toList_lower, String.toList_append, String.toList_append,
        toList_lower, List.map_append]
      rfl
    rw [hlower, withoutDot_dot_append, withoutDot_dot_append]
  · have hlower : (lower s).toList.head? ≠ some '.' := by
      rw [toList_lower]
      exact mt (head?_map_toLower_eq_iff (by decide)).mp hdot
    rw [withoutDot_of_head?_ne hdot, withoutDot_of_head?_ne hlower]

section
variable {s t : String} (h : sameLetters s t = true)
include h

theorem Kind.ofField?_congr : Kind.ofField? s = Kind.ofField? t := by
  simp only [Kind.ofField?, sameLetters, sameLetters_iff.mp h]

theorem Verb.ofField?_congr : Verb.ofField? s = Verb.ofField? t := by
  simp only [Verb.ofField?, sameLetters, sameLetters_iff.mp h]

theorem sameLetters_withoutDot : sameLetters (withoutDot s) (withoutDot t) = true := by
  rw [sameLetters_iff, ← withoutDot_lower, sameLetters_iff.mp h, withoutDot_lower]

/-- Values in the same letters make the same condition. -/
theorem Kind.condition_congr {k : Kind} {c : Condition} :
    k.condition s = .ok c ↔ k.condition t = .ok c := by
  cases k with
  | domain =>
    rw [domain_condition_eq_ok_iff, domain_condition_eq_ok_iff, Ne, Ne, eq_empty_congr h,
      sameLetters_iff.mp h]
  | domainSuffix =>
    have hdot := sameLetters_withoutDot h
    rw [domainSuffix_condition_eq_ok_iff, domainSuffix_condition_eq_ok_iff, Ne, Ne,
      eq_empty_congr hdot, sameLetters_iff.mp hdot]
  | cidr =>
    rw [cidr_condition_eq_ok_iff, cidr_condition_eq_ok_iff, Network.ofString?_congr h]
  | ip =>
    rw [ip_condition_eq_ok_iff, ip_condition_eq_ok_iff, Ip.ofString?_congr h]
  | country =>
    rw [country_condition_eq_ok_iff, country_condition_eq_ok_iff, Ne, Ne, eq_empty_congr h,
      upper_congr h]
  | all => exact Iff.rfl

end

/-! ### Actions and their targets -/

/-- An action takes its own targets, and nothing else, to the last word. -/
theorem Verb.action_eq_ok_nil_iff {v : Verb} {about : String} {rest : List String} {a : Action} :
    v.action about rest = .ok (a, []) ↔ a.verb = v ∧ a.targets = rest := by
  constructor
  · intro h
    cases v with
    | hijack =>
      rcases rest with - | ⟨target, extra⟩ <;> cases h
      exact ⟨rfl, rfl⟩
    | _ =>
      cases h
      exact ⟨rfl, rfl⟩
  · rintro ⟨rfl, rfl⟩
    cases a <;> rfl

/-- As many words as one action takes are taken by another one of the same verb. -/
theorem Action.exists_targets_eq {a : Action} {rest : List String}
    (h : a.targets.length = rest.length) : ∃ a' : Action, a'.verb = a.verb ∧ a'.targets = rest := by
  cases a with
  | hijack target =>
    obtain ⟨target', rfl⟩ := List.length_eq_one_iff.mp h.symm
    exact ⟨.hijack target', rfl, rfl⟩
  | _ =>
    obtain rfl := List.eq_nil_of_length_eq_zero h.symm
    exact ⟨_, rfl, rfl⟩

/-- Actions of one verb are told apart by the target. -/
theorem Action.eq_iff_of_verb_eq {a a' : Action} (h : a'.verb = a.verb) :
    a = a' ↔ (a.verb = .hijack → a.targets.head? = a'.targets.head?) := by
  cases a <;> cases a' <;> simp_all [verb, targets]

/-! ### Lines -/

namespace Rule

/-- Of the words of a line, the one that stands where the target does: the
third if the line hijacks everything, the fourth if it hijacks anything else,
and none if it does not hijack. -/
def targetWord? (words : List String) : Option String :=
  if words[0]?.any (sameLetters · "hijack") then
    if words[1]?.any (sameLetters · "all") then words[2]? else words[3]?
  else none

theorem targetWord?_eq {verb kind : String} {rest : List String} {v : Verb} {k : Kind}
    (hv : Verb.ofField? verb = some v) (hk : Kind.ofField? kind = some k) :
    targetWord? (verb :: kind :: rest)
      = if v = .hijack then (if k = .all then rest else rest.tail).head? else none := by
  have hhijack : sameLetters verb "hijack" = true ↔ v = .hijack := by
    show sameLetters verb Verb.hijack.word = true ↔ v = .hijack
    rw [← Verb.ofField?_eq_some_iff, hv, Option.some_inj]
  have hall : sameLetters kind "all" = true ↔ k = .all := by
    show sameLetters kind Kind.all.word = true ↔ k = .all
    rw [← Kind.ofField?_eq_some_iff, hk, Option.some_inj]
  simp only [targetWord?, List.getElem?_cons_zero, List.getElem?_cons_succ, Option.any_some,
    hhijack, hall]
  by_cases hk : k = .all <;> simp [hk, List.head?_eq_getElem?]

/-- Reading a line is reading the words that it is cut into. -/
theorem parse_of_cutInto {line : String} {words : List String} (h : CutInto line.toList words) :
    parse line = ofFields words := by
  rw [parse, cutInto_iff.mp h]

/-- Words in the same letters as words that make a rule make a rule, and it
is the same rule if the target is the same. -/
theorem exists_ofFields_of_sameLetters {words words' : List String}
    (h : List.Forall₂ (fun w w' => sameLetters w w' = true) words words') {r : Rule}
    (hr : ofFields words = .ok r) :
    ∃ r', ofFields words' = .ok r' ∧ (r = r' ↔ targetWord? words = targetWord? words') := by
  rcases h with - | @⟨verb, verb', _, _, hverb, - | @⟨kind, kind', rest, rest', hkind, hrest⟩⟩
  · cases hr
  · cases hr
  obtain ⟨v, k, hv, hk, hc, ha⟩ := ofFields_eq_ok_iff.mp hr
  have hv' : Verb.ofField? verb' = some v := Verb.ofField?_congr hverb ▸ hv
  have hk' : Kind.ofField? kind' = some k := Kind.ofField?_congr hkind ▸ hk
  have hc' : k.condition (rest'.headD "") = .ok r.condition := by
    apply (Kind.condition_congr _).mp hc
    cases hrest with
    | nil => exact sameLetters_self ""
    | cons hvalue _ => exact hvalue
  -- what is left for the action may be other words here, but there are as many of them
  have hlen : (if k = .all then rest else rest.tail).length
      = (if k = .all then rest' else rest'.tail).length := by
    split <;> simp [hrest.length_eq]
  obtain ⟨rfl, htargets⟩ := Verb.action_eq_ok_nil_iff.mp ha
  rw [← htargets] at hlen
  obtain ⟨a, hverb', htargets'⟩ := Action.exists_targets_eq hlen
  have ha' : r.action.verb.action "" (if k = .all then rest' else rest'.tail) = .ok (a, []) :=
    Verb.action_eq_ok_nil_iff.mpr ⟨hverb', htargets'⟩
  refine ⟨⟨a, r.condition⟩, ofFields_eq_ok_iff.mpr ⟨_, k, hv', hk', hc', ha'⟩, ?_⟩
  -- the conditions are the same, and so are the verbs, which leaves the targets
  rw [targetWord?_eq hv hk, targetWord?_eq hv' hk', ← htargets, ← htargets']
  obtain ⟨action, condition⟩ := r
  show Rule.mk action condition = ⟨a, condition⟩ ↔ _
  rw [Rule.mk.injEq, and_iff_left rfl, Action.eq_iff_of_verb_eq hverb']
  by_cases hhijack : action.verb = .hijack <;> simp [hhijack]

/-- **Letters matter only in a target.**  Take two lines, spaced in any way,
whose words are in the same letters, one by one.  Then both are refused or
both are accepted; and if they are accepted, they hold the same rule exactly
if the words that name a target, as far as there are any, are the same. -/
theorem letters_matter_only_in_target {line line' : String} {words words' : List String}
    (hline : CutInto line.toList words) (hline' : CutInto line'.toList words')
    (h : List.Forall₂ (fun w w' => sameLetters w w' = true) words words') :
    (∃ e e', parse line = .error e ∧ parse line' = .error e') ∨
      ∃ r r', parse line = .ok r ∧ parse line' = .ok r' ∧
        (r = r' ↔ targetWord? words = targetWord? words') := by
  rw [parse_of_cutInto hline, parse_of_cutInto hline']
  rcases hr : ofFields words with e | r
  · left
    rcases hr' : ofFields words' with e' | r'
    · exact ⟨e, e', rfl, rfl⟩
    · -- the second line would make the first one a rule
      have hflip : List.Forall₂ (fun w w' => sameLetters w w' = true) words' words :=
        (h.imp fun w w' hw => (sameLetters_comm w' w).trans hw).flip
      obtain ⟨r, hok, -⟩ := exists_ofFields_of_sameLetters hflip hr'
      rw [hr] at hok
      cases hok
  · right
    obtain ⟨r', hr', hsame⟩ := exists_ofFields_of_sameLetters h hr
    exact ⟨r, r', rfl, hr', hsame⟩

/-- A network with letters in it, keywords in both cases and one target. -/
theorem letters_matter_only_in_target_sample :
    CutInto "HIJACK Cidr FD00:AB::/16  Up.Example".toList
      ["HIJACK", "Cidr", "FD00:AB::/16", "Up.Example"] ∧
    CutInto "hijack\tcidr fd00:aB::/16 Up.Example ".toList
      ["hijack", "cidr", "fd00:aB::/16", "Up.Example"] ∧
    List.Forall₂ (fun w w' => sameLetters w w' = true)
      ["HIJACK", "Cidr", "FD00:AB::/16", "Up.Example"]
      ["hijack", "cidr", "fd00:aB::/16", "Up.Example"] ∧
    ∃ r, parse "HIJACK Cidr FD00:AB::/16  Up.Example" = .ok r ∧
      parse "hijack\tcidr fd00:aB::/16 Up.Example " = .ok r := by
  have hline : CutInto "HIJACK Cidr FD00:AB::/16  Up.Example".toList
      ["HIJACK", "Cidr", "FD00:AB::/16", "Up.Example"] := cutInto_iff.mpr (by decide +kernel)
  have hline' : CutInto "hijack\tcidr fd00:aB::/16 Up.Example ".toList
      ["hijack", "cidr", "fd00:aB::/16", "Up.Example"] := cutInto_iff.mpr (by decide +kernel)
  have h : List.Forall₂ (fun w w' => sameLetters w w' = true)
      ["HIJACK", "Cidr", "FD00:AB::/16", "Up.Example"]
      ["hijack", "cidr", "fd00:aB::/16", "Up.Example"] := by simp [sameLetters_iff_map]
  refine ⟨hline, hline', h, ?_⟩
  rcases letters_matter_only_in_target hline hline' h with ⟨-, e, -, he⟩ | ⟨r, r', hr, hr', hsame⟩
  · have hread : (parse "hijack\tcidr fd00:aB::/16 Up.Example ").toBool = true := by decide +kernel
    rw [he] at hread
    cases hread
  · obtain rfl : r = r' := by
      have hv : Verb.ofField? "HIJACK" = some .hijack := by
        simp [Verb.ofField?_eq_some_iff, Verb.word, sameLetters_iff_map]
      have hk : Kind.ofField? "Cidr" = some .cidr := by
        simp [Kind.ofField?_eq_some_iff, Kind.word, sameLetters_iff_map]
      have hv' : Verb.ofField? "hijack" = some .hijack := Verb.hijack.ofField?_word
      have hk' : Kind.ofField? "cidr" = some .cidr := Kind.cidr.ofField?_word
      rw [hsame, targetWord?_eq hv hk, targetWord?_eq hv' hk']
      rfl
    exact ⟨r, hr, hr'⟩

end Rule
end EgressPolicy
