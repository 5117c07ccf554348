/-
EgressPolicy/Proofs/Rule/Denotation.lean

What a line denotes, said without the reader.

A line is cut into words at its blanks (`Text.CutInto`).  The words denote a
rule (`Rule.Denotes`) if the first of them denotes an action together with
those at the end (`Action.Denotes`), and those in between denote a condition
(`Condition.Denotes`).  There is no other way to make a rule: a line has one
division into words (`Text.cutInto_iff`), and the reader accepts it exactly if
these words denote a rule, which then is the rule that it gives
(`Rule.parse_eq_ok_iff_denotes`).

The reader looks at the value before it knows whether there is one, and takes
an empty text where there is none.  So for each kind with a value it has to be
seen that an empty one makes no condition (`Kind.condition_empty_ne_ok`).
-/
import Mathlib
import EgressPolicy.Proofs.Rule.Grammar

namespace EgressPolicy

open Text

/-! ### What words denote -/

/-- The word of an action and the words at the end of the line denote the
action: a hijacked connection has its target there, and no other action has
anything. -/
inductive Action.Denotes : String → List String → Action → Prop
  | direct {verb : String} : sameLetters verb "direct" = true → Denotes verb [] .direct
  | proxy {verb : String} : sameLetters verb "proxy" = true → Denotes verb [] .proxy
  | block {verb : String} : sameLetters verb "block" = true → Denotes verb [] .block
  | hijack {verb target : String} :
      sameLetters verb "hijack" = true → Denotes verb [target] (.hijack target)

/-- The word of a kind, and the value behind it if it has one, denote the
condition.  A suffix may be written with one dot in front. -/
inductive Condition.Denotes : List String → Condition → Prop
  | domain {kind name : String} :
      sameLetters kind "domain" = true → Denotes [kind, name] (.domain (lower name))
  | suffix {kind suffix : String} :
      sameLetters kind "domain-suffix" = true → suffix.toList.head? ≠ some '.' →
        Denotes [kind, suffix] (.domainSuffix (lower suffix))
  | dottedSuffix {kind suffix : String} :
      sameLetters kind "domain-suffix" = true → suffix ≠ "" →
        Denotes [kind, "." ++ suffix] (.domainSuffix (lower suffix))
  | cidr {kind text : String} {network : Network} :
      sameLetters kind "cidr" = true → Network.ofString? text = some network →
        Denotes [kind, text] (.cidr network.truncate)
  | ip {kind text : String} {addr : Ip} :
      sameLetters kind "ip" = true → Ip.ofString? text = some addr →
        Denotes [kind, text] (.cidr (.single addr.canonical))
  | country {kind code : String} :
      sameLetters kind "country" = true → Denotes [kind, code] (.country (upper code))
  | all {kind : String} : sameLetters kind "all" = true → Denotes [kind] .all

/-- The words denote the rule: those of its condition stand between its
action's word and what else the action has. -/
inductive Rule.Denotes : List String → Rule → Prop
  | mk {verb : String} {about targets : List String} {a : Action} {c : Condition} :
      Action.Denotes verb targets a → Condition.Denotes about c →
        Denotes (verb :: (about ++ targets)) ⟨a, c⟩

/-! ### Actions -/

theorem Action.denotes_iff {verb : String} {targets : List String} {a : Action} :
    Denotes verb targets a ↔
      ∃ v, Verb.ofField? verb = some v ∧ v.action "" targets = .ok (a, []) := by
  simp only [Verb.ofField?_eq_some_iff]
  constructor
  · intro h
    cases h with
    | direct h => exact ⟨.direct, h, rfl⟩
    | proxy h => exact ⟨.proxy, h, rfl⟩
    | block h => exact ⟨.block, h, rfl⟩
    | hijack h => exact ⟨.hijack, h, rfl⟩
  · rintro ⟨v, hv, ha⟩
    cases v with
    | direct => cases ha; exact .direct hv
    | proxy => cases ha; exact .proxy hv
    | block => cases ha; exact .block hv
    | hijack =>
      rcases targets with - | ⟨target, targets⟩
      · cases ha
      · cases ha
        exact .hijack hv

/-! ### Conditions -/

/-- An empty text is no value of any kind that has one. -/
theorem Kind.condition_empty_ne_ok {k : Kind} (h : k ≠ .all) (c : Condition) :
    k.condition "" ≠ .ok c := by
  have hdot : withoutDot "" = "" := by decide
  have hnetwork : Network.ofString? "" = none := by decide
  have hip : Ip.ofString? "" = none := by decide
  cases k with
  | all => exact absurd rfl h
  | _ => simp [condition, hdot, hnetwork, hip]

/-- The words of a condition are its kind's, and a value of that kind. -/
theorem Condition.Denotes.exists_kind {about : List String} {c : Condition}
    (hne : "" ∉ about) (h : Denotes about c) :
    ∃ kind k value, Kind.ofField? kind = some k ∧ k.condition value = .ok c ∧
      about = kind :: if k = .all then [] else [value] := by
  simp only [Kind.ofField?_eq_some_iff]
  cases h with
  | @domain kind name h =>
    have hname : name ≠ "" := fun hname => hne (by simp [hname])
    exact ⟨kind, .domain, name, h, Kind.domain_condition_eq_ok_iff.mpr ⟨hname, rfl⟩, rfl⟩
  | @suffix kind suffix h hdot =>
    have hsuffix : suffix ≠ "" := fun hsuffix => hne (by simp [hsuffix])
    have hleft := withoutDot_of_head?_ne hdot
    refine ⟨kind, .domainSuffix, suffix, h, Kind.domainSuffix_condition_eq_ok_iff.mpr ?_, rfl⟩
    rw [hleft]
    exact ⟨hsuffix, rfl⟩
  | @dottedSuffix kind suffix h hsuffix =>
    refine ⟨kind, .domainSuffix, "." ++ suffix, h,
      Kind.domainSuffix_condition_eq_ok_iff.mpr ?_, rfl⟩
    rw [withoutDot_dot_append]
    exact ⟨hsuffix, rfl⟩
  | @cidr kind text network h hnetwork =>
    exact ⟨kind, .cidr, text, h, Kind.cidr_condition_eq_ok_iff.mpr ⟨network, hnetwork, rfl⟩, rfl⟩
  | @ip kind text addr h haddr =>
    exact ⟨kind, .ip, text, h, Kind.ip_condition_eq_ok_iff.mpr ⟨addr, haddr, rfl⟩, rfl⟩
  | @country kind code h =>
    have hcode : code ≠ "" := fun hcode => hne (by simp [hcode])
    exact ⟨kind, .country, code, h, Kind.country_condition_eq_ok_iff.mpr ⟨hcode, rfl⟩, rfl⟩
  | @all kind h => exact ⟨kind, .all, "", h, rfl, rfl⟩

/-- A kind and a value of it denote the condition that they make. -/
theorem Kind.denotes_of_condition {kind value : String} {k : Kind} {c : Condition}
    (hkind : Kind.ofField? kind = some k) (hc : k.condition value = .ok c) :
    Condition.Denotes (kind :: if k = .all then [] else [value]) c := by
  rw [Kind.ofField?_eq_some_iff] at hkind
  cases k with
  | domain =>
    obtain ⟨-, rfl⟩ := domain_condition_eq_ok_iff.mp hc
    exact .domain hkind
  | domainSuffix =>
    obtain ⟨hne, rfl⟩ := domainSuffix_condition_eq_ok_iff.mp hc
    -- the two ways of writing a suffix are told apart by the first character
    by_cases hdot : value.toList.head? = some '.'
    · obtain ⟨suffix, rfl⟩ := exists_eq_dot_append hdot
      rw [withoutDot_dot_append] at hne ⊢
      exact .dottedSuffix hkind hne
    · rw [withoutDot_of_head?_ne hdot]
      exact .suffix hkind hdot
  | cidr =>
    obtain ⟨network, hnetwork, rfl⟩ := cidr_condition_eq_ok_iff.mp hc
    exact .cidr hkind hnetwork
  | ip =>
    obtain ⟨addr, haddr, rfl⟩ := ip_condition_eq_ok_iff.mp hc
    exact .ip hkind haddr
  | country =>
    obtain ⟨-, rfl⟩ := country_condition_eq_ok_iff.mp hc
    exact .country hkind
  | all =>
    obtain rfl := all_condition_eq_ok_iff.mp hc
    exact .all hkind

/-! ### Rules -/

namespace Rule

/-- The reader makes a rule of some words exactly if they denote it. -/
theorem denotes_iff {words : List String} (hne : "" ∉ words) {r : Rule} :
    Denotes words r ↔ ofFields words = .ok r := by
  constructor
  · rintro ⟨ha, hc⟩
    rename_i verb about targets a c
    have habout : "" ∉ about := fun h => hne (by simp [h])
    obtain ⟨v, hv, hact⟩ := Action.denotes_iff.mp ha
    obtain ⟨kind, k, value, hk, hcond, rfl⟩ := hc.exists_kind habout
    rw [List.cons_append, ofFields_eq_ok_iff]
    -- what the reader takes for the value stands there unless the kind has none
    by_cases hall : k = .all
    · subst hall
      exact ⟨v, .all, hv, hk, hcond, hact⟩
    · refine ⟨v, k, hv, hk, ?_, ?_⟩
      · rw [if_neg hall]
        exact hcond
      · rw [if_neg hall, if_neg hall]
        exact hact
  · intro h
    rcases words with - | ⟨verb, - | ⟨kind, rest⟩⟩
    · cases h
    · cases h
    obtain ⟨v, k, hv, hk, hcond, hact⟩ := ofFields_eq_ok_iff.mp h
    have hc := Kind.denotes_of_condition hk hcond
    by_cases hall : k = .all
    · rw [if_pos hall] at hact hc
      exact .mk (Action.denotes_iff.mpr ⟨v, hv, hact⟩) hc
    · rcases rest with - | ⟨value, targets⟩
      · exact absurd hcond (Kind.condition_empty_ne_ok hall _)
      · rw [if_neg hall] at hact hc
        exact .mk (Action.denotes_iff.mpr ⟨v, hv, hact⟩) hc

/-- **A line is accepted exactly if it is cut into words that denote a rule**,
and what is read is the rule that they denote. -/
theorem parse_eq_ok_iff_denotes {line : String} {r : Rule} :
    parse line = .ok r ↔ ∃ words, CutInto line.toList words ∧ Denotes words r := by
  have hne : "" ∉ (fields line.toList).map String.ofList := fun h => (isWord_of_mem_fields h).1 rfl
  simp only [cutInto_iff, exists_eq_left', denotes_iff hne]
  rfl

end Rule
end EgressPolicy
