/-
EgressPolicy/Proofs/Rule/Stored.lean

What the fields of a rule look like when the rule was read from a line.

A rule has to be read from words, so its name, suffix, code and target are
words; names and suffixes have been lowered, codes raised and networks
truncated (`stored_of_parse`).  Reading takes only one dot away from a suffix,
so the suffix that is stored may still start with one.
-/
import Mathlib
import EgressPolicy.Proofs.Ip.Network
import EgressPolicy.Proofs.Text.Word

namespace EgressPolicy

open Text

/-! ### Normal forms -/

/-- The value is one that reading a line can leave. -/
def Condition.Stored : Condition → Prop
  | domain name => IsWord name ∧ ∀ c ∈ name.toList, c.isUpper = false
  | domainSuffix suffix => IsWord suffix ∧ ∀ c ∈ suffix.toList, c.isUpper = false
  | cidr network => network.HostBitsZero
  | country code => IsWord code ∧ ∀ c ∈ code.toList, c.isLower = false
  | all => True

instance : DecidablePred Condition.Stored
  | .domain name => @instDecidableAnd (IsWord name) _ _ (List.decidableBAll _ name.toList)
  | .domainSuffix suffix =>
    @instDecidableAnd (IsWord suffix) _ _ (List.decidableBAll _ suffix.toList)
  | .cidr network => inferInstanceAs (Decidable network.HostBitsZero)
  | .country code => @instDecidableAnd (IsWord code) _ _ (List.decidableBAll _ code.toList)
  | .all => inferInstanceAs (Decidable True)

/-- The target is one that reading a line can leave. -/
def Action.Stored : Action → Prop
  | hijack target => IsWord target
  | _ => True

instance : DecidablePred Action.Stored
  | .hijack target => inferInstanceAs (Decidable (IsWord target))
  | .direct | .proxy | .block => inferInstanceAs (Decidable True)

/-- All fields are such that reading a line can leave them. -/
def Rule.Stored (r : Rule) : Prop := r.condition.Stored ∧ r.action.Stored

instance : DecidablePred Rule.Stored := fun r =>
  inferInstanceAs (Decidable (r.condition.Stored ∧ r.action.Stored))

/-! ### Values -/

/-- A text without a dot in front is left as it is. -/
theorem withoutDot_of_head?_ne {s : String} (h : s.toList.head? ≠ some '.') : withoutDot s = s := by
  rw [withoutDot]
  split
  · rename_i cs hcs
    exact absurd (by rw [hcs, List.head?_cons]) h
  · rfl

/-- A dot in front is taken away. -/
@[simp] theorem withoutDot_dot_append (s : String) : withoutDot ("." ++ s) = s := by
  have hcs : ("." ++ s).toList = '.' :: s.toList := by simp
  rw [withoutDot, hcs]
  exact String.ofList_toList

theorem exists_eq_dot_append {s : String} (h : s.toList.head? = some '.') :
    ∃ t, s = "." ++ t := by
  obtain ⟨cs, hcs⟩ := List.head?_eq_some_iff.mp h
  refine ⟨String.ofList cs, ?_⟩
  rw [← String.toList_inj, hcs]
  simp

/-- What is left of a text without its dot holds no new character. -/
theorem mem_of_mem_withoutDot {s : String} {c : Char} (h : c ∈ (withoutDot s).toList) :
    c ∈ s.toList := by
  by_cases hdot : s.toList.head? = some '.'
  · obtain ⟨t, rfl⟩ := exists_eq_dot_append hdot
    rw [withoutDot_dot_append] at h
    rw [String.toList_append]
    exact List.mem_append_right _ h
  · rwa [withoutDot_of_head?_ne hdot] at h

theorem isWord_withoutDot {s : String} (h : ∀ c ∈ s.toList, isBlank c = false)
    (hne : withoutDot s ≠ "") : IsWord (withoutDot s) :=
  ⟨hne, fun c hc => h c (mem_of_mem_withoutDot hc)⟩

namespace Kind

variable {value : String} {c : Condition}

theorem domain_condition_eq_ok_iff :
    domain.condition value = .ok c ↔ value ≠ "" ∧ c = .domain (lower value) := by
  show (if value = "" then _ else _) = _ ↔ _
  by_cases hvalue : value = "" <;> simp [hvalue, eq_comm]

theorem domainSuffix_condition_eq_ok_iff :
    domainSuffix.condition value = .ok c ↔
      withoutDot value ≠ "" ∧ c = .domainSuffix (lower (withoutDot value)) := by
  show (if withoutDot value = "" then _ else _) = _ ↔ _
  by_cases hvalue : withoutDot value = "" <;> simp [hvalue, eq_comm]

theorem cidr_condition_eq_ok_iff :
    cidr.condition value = .ok c ↔
      ∃ n, Network.ofString? value = some n ∧ c = .cidr n.truncate := by
  rw [condition]
  rcases Network.ofString? value with - | n <;> simp [eq_comm]

theorem ip_condition_eq_ok_iff :
    ip.condition value = .ok c ↔
      ∃ a, Ip.ofString? value = some a ∧ c = .cidr (.single a.canonical) := by
  rw [condition]
  rcases Ip.ofString? value with - | a <;> simp [eq_comm]

theorem country_condition_eq_ok_iff :
    country.condition value = .ok c ↔ value ≠ "" ∧ c = .country (upper value) := by
  show (if value = "" then _ else _) = _ ↔ _
  by_cases hvalue : value = "" <;> simp [hvalue, eq_comm]

theorem all_condition_eq_ok_iff : all.condition value = .ok c ↔ c = .all := by
  show Except.ok .all = Except.ok c ↔ _
  simp [eq_comm]

/-- A value without blanks makes a condition in normal form, if it makes one. -/
theorem stored_of_condition {k : Kind} (hvalue : ∀ x ∈ value.toList, isBlank x = false)
    (h : k.condition value = .ok c) : c.Stored := by
  cases k with
  | domain =>
    obtain ⟨hne, rfl⟩ := domain_condition_eq_ok_iff.mp h
    have hword : IsWord value := ⟨hne, hvalue⟩
    exact ⟨hword.lower, not_isUpper_of_mem_lower⟩
  | domainSuffix =>
    -- the dot is gone before the value is tested and lowered
    obtain ⟨hne, rfl⟩ := domainSuffix_condition_eq_ok_iff.mp h
    exact ⟨(isWord_withoutDot hvalue hne).lower, not_isUpper_of_mem_lower⟩
  | cidr =>
    obtain ⟨network, -, rfl⟩ := cidr_condition_eq_ok_iff.mp h
    exact network.hostBitsZero_truncate
  | ip =>
    obtain ⟨addr, -, rfl⟩ := ip_condition_eq_ok_iff.mp h
    exact Network.hostBitsZero_single addr.canonical
  | country =>
    obtain ⟨hne, rfl⟩ := country_condition_eq_ok_iff.mp h
    have hword : IsWord value := ⟨hne, hvalue⟩
    exact ⟨hword.upper, not_isLower_of_mem_upper⟩
  | all =>
    obtain rfl := all_condition_eq_ok_iff.mp h
    trivial

end Kind

theorem Condition.stored_of_read {kind value : String} {c : Condition}
    (hvalue : ∀ x ∈ value.toList, isBlank x = false) (h : Condition.read kind value = .ok c) :
    c.Stored := by
  rw [Condition.read] at h
  split at h
  · exact Kind.stored_of_condition hvalue h
  · cases h

/-- A target that is taken from words is a word. -/
theorem Action.stored_of_read {verb about : String} {rest extra : List String} {a : Action}
    (hrest : ∀ w ∈ rest, IsWord w) (h : Action.read verb about rest = .ok (a, extra)) :
    a.Stored := by
  rw [Action.read] at h
  split at h
  · rename_i v hv
    cases v with
    | direct => cases h; trivial
    | proxy => cases h; trivial
    | block => cases h; trivial
    | hijack =>
      rcases rest with - | ⟨target, more⟩
      · cases h
      · cases h
        exact hrest target List.mem_cons_self
  · cases h

/-! ### Lines -/

namespace Rule

/-- A rule is assembled from a condition and an action that leaves nothing over. -/
theorem assemble_eq_ok_iff {verb kind value about : String} {rest : List String} {r : Rule} :
    assemble verb kind value about rest = .ok r ↔
      Condition.read kind value = .ok r.condition ∧
        Action.read verb about rest = .ok (r.action, []) := by
  rw [assemble]
  rcases hc : Condition.read kind value with e | c
  · simp [bind, Except.bind]
  rcases ha : Action.read verb about rest with e | ⟨a, extra⟩
  · simp [bind, Except.bind]
  rcases extra with - | ⟨w, extra⟩
  · constructor
    · intro h
      cases h
      exact ⟨rfl, rfl⟩
    · rintro ⟨hcond, hact⟩
      cases hcond
      cases hact
      rfl
  · simp [bind, Except.bind, throw, throwThe, MonadExceptOf.throw]

/-- Fields that make a rule start with an action and a kind of condition, and
the rest is a value, if the condition has one, and what the action takes. -/
theorem ofFields_eq_ok {fields : List String} {r : Rule} (h : ofFields fields = .ok r) :
    ∃ verb kind value about rest, (value = "" ∨ value ∈ fields) ∧ rest ⊆ fields ∧
      assemble verb kind value about rest = .ok r := by
  rcases fields with - | ⟨verb, - | ⟨kind, rest⟩⟩
  · cases h
  · cases h
  · rw [ofFields] at h
    split at h
    · refine ⟨verb, kind, "", kind, rest, .inl rfl, ?_, h⟩
      intro w hw
      exact List.mem_cons_of_mem _ (List.mem_cons_of_mem _ hw)
    · refine ⟨verb, kind, rest.headD "", _, rest.tail, ?_, ?_, h⟩
      · rcases rest with - | ⟨value, rest⟩
        · exact .inl rfl
        · right
          simp
      · intro w hw
        exact List.mem_cons_of_mem _ (List.mem_cons_of_mem _ (List.mem_of_mem_tail hw))

/-- Words that make a rule make one in normal form. -/
theorem stored_of_ofFields {fields : List String} {r : Rule} (hfields : ∀ w ∈ fields, IsWord w)
    (h : ofFields fields = .ok r) : r.Stored := by
  obtain ⟨verb, kind, value, about, rest, hvalue, hrest, hr⟩ := ofFields_eq_ok h
  obtain ⟨hcond, hact⟩ := assemble_eq_ok_iff.mp hr
  constructor
  · apply Condition.stored_of_read _ hcond
    rcases hvalue with rfl | hvalue
    · simp
    · exact (hfields value hvalue).2
  · exact Action.stored_of_read (fun w hw => hfields w (hrest hw)) hact

/-- A rule that is read from a line is in normal form. -/
theorem stored_of_parse {line : String} {r : Rule} (h : parse line = .ok r) : r.Stored :=
  stored_of_ofFields (fun _ hw => isWord_of_mem_fields hw) h

end Rule
end EgressPolicy
