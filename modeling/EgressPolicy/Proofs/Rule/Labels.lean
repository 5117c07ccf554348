/-
EgressPolicy/Proofs/Rule/Labels.lean

Suffixes of host names, label by label.

The labels of a name are what stands between its dots.  A suffix condition
knows nothing of them: it asks whether the name is the suffix or ends with a
dot and the suffix.  For all texts, whatever dots they have at their ends or in
a row, this is to ask whether the labels of the suffix are the last labels of
the name (`isBelow_iff_labels`), since a dot leaves the labels on its two sides
as they are.

So a rule on a suffix covers the suffix and all names that have more labels in
front of it, and no name in which the suffix starts in the middle of a label
(`suffix_covers_whole_labels`).
-/
import Mathlib
import EgressPolicy.Proofs.Rule.Grammar
import EgressPolicy.Proofs.Text.Letter
import EgressPolicy.Rule.Matching

namespace EgressPolicy

namespace Text

/-! ### Labels -/

/-- What stands between the dots of a name; there may be nothing between two of them. -/
def labels (name : String) : List String := (name.toList.splitOn '.').map String.ofList

example : labels "cdn.Apple.com." = ["cdn", "Apple", "com", ""] := by decide +kernel

theorem labels_ne_nil (name : String) : labels name ≠ [] := by
  simp [labels, List.splitOn_ne_nil]

/-- The labels with dots between them are the name. -/
theorem intercalate_labels (name : String) : ".".intercalate (labels name) = name := by
  have hdot : ".".toList = ['.'] := by simp
  have hlabels : (labels name).map String.toList = name.toList.splitOn '.' := by
    simp [labels, Function.comp_def]
  rw [← String.toList_inj, String.toList_intercalate, hdot, hlabels, List.intercalate_splitOn]

/-- A dot leaves the labels on its two sides as they are. -/
theorem labels_append_dot_append (front back : String) :
    labels (front ++ "." ++ back) = labels front ++ labels back := by
  have hcs : (front ++ "." ++ back).toList = front.toList ++ '.' :: back.toList := by simp
  rw [labels, hcs, List.splitOn_append_cons_self, List.map_append]
  rfl

end Text

open Text

/-! ### Names below names -/

namespace Condition

theorem isBelow_iff {suffix name : List Char} :
    isBelow suffix name = true ↔ name = suffix ∨ '.' :: suffix <:+ name := by
  simp [isBelow]

/-- To be below a name is to have its labels at the end. -/
theorem isBelow_iff_labels {suffix name : String} :
    isBelow suffix.toList name.toList = true ↔ labels suffix <:+ labels name := by
  rw [isBelow_iff]
  constructor
  · rintro (h | ⟨front, h⟩)
    · rw [String.toList_inj.mp h]
    · have hname : name = String.ofList front ++ "." ++ suffix := by
        rw [← String.toList_inj, ← h]
        simp
      rw [hname, labels_append_dot_append]
      exact List.suffix_append _ _
  · rintro ⟨front, h⟩
    have hname : name = ".".intercalate (front ++ labels suffix) := by
      rw [h, intercalate_labels]
    by_cases hfront : front = []
    · left
      rw [hname, hfront, List.nil_append, intercalate_labels]
    · right
      rw [String.intercalate_append_of_ne_nil hfront (labels_ne_nil suffix),
        intercalate_labels] at hname
      exact ⟨(".".intercalate front).toList, by rw [hname]; simp⟩

/-- What is below a name that is below a suffix is below the suffix. -/
theorem isBelow_trans {s t name : String} (hst : isBelow s.toList t.toList = true)
    (ht : isBelow t.toList name.toList = true) : isBelow s.toList name.toList = true := by
  rw [isBelow_iff_labels] at hst ht ⊢
  exact hst.trans ht

/-! ### What suffix conditions cover -/

theorem coversName_domainSuffix_iff {suffix host : String} :
    (domainSuffix suffix).coversName host = true ↔
      host ≠ "" ∧ labels suffix <:+ labels (lower host) := by
  simp [coversName, isBelow_iff_labels]

/-- No condition looks at the case of a host name's letters. -/
theorem coversName_congr (c : Condition) {host host' : String}
    (h : sameLetters host host' = true) : c.coversName host = c.coversName host' := by
  have hne : (host != "") = (host' != "") := by
    rw [Bool.eq_iff_iff]
    simp [eq_empty_congr h]
  rw [sameLetters_iff] at h
  cases c with
  | domain name => simp only [coversName, sameLetters, hne, h]
  | domainSuffix suffix => simp only [coversName, hne, h]
  | _ => rfl

/-- A suffix does not start in the middle of a label. -/
theorem coversName_eq_false_of_append {suffix host : String} {front : List Char} {c : Char}
    (hc : c ≠ '.') (h : (lower host).toList = front ++ c :: suffix.toList) :
    (domainSuffix suffix).coversName host = false := by
  have hbelow : ¬ isBelow suffix.toList (lower host).toList = true := by
    rw [isBelow_iff, h]
    rintro (hsame | hdot)
    · have hlen := congrArg List.length hsame
      simp at hlen
      omega
    · -- what stands in front of the suffix is one character only
      have hlast : '.' :: suffix.toList = c :: suffix.toList :=
        (List.suffix_of_suffix_length_le hdot (List.suffix_append _ _) (by simp)).eq_of_length
          (by simp)
      exact hc (List.cons.inj hlast).1.symm
  simp [coversName, hbelow]

/-- A suffix covers the names that have any labels in front of it. -/
theorem coversName_of_lower_eq {suffix host : String} (hne : suffix ≠ "") {above : List String}
    (h : lower host = ".".intercalate (above ++ [suffix])) :
    (domainSuffix suffix).coversName host = true := by
  have hlower : lower host = suffix ∨ ∃ front, lower host = front ++ "." ++ suffix := by
    by_cases habove : above = []
    · left
      rw [h, habove, List.nil_append, String.intercalate_singleton]
    · right
      refine ⟨".".intercalate above, ?_⟩
      rw [h, String.intercalate_append_of_ne_nil habove (List.cons_ne_nil _ _),
        String.intercalate_singleton]
  rw [coversName_domainSuffix_iff, Ne, ← lower_eq_empty_iff]
  rcases hlower with h | ⟨front, h⟩
  · rw [h]
    exact ⟨hne, List.suffix_rfl⟩
  · rw [h, labels_append_dot_append]
    exact ⟨by simp, List.suffix_append _ _⟩

/-- A suffix that covers a stored name covers all names that differ from it in
the case of their letters. -/
theorem isBelow_of_coversName_domain {suffix name host : String}
    (hbelow : isBelow suffix.toList name.toList = true)
    (hstored : (Condition.domain name).Stored)
    (h : (Condition.domain name).coversName host = true) :
    (Condition.domainSuffix suffix).coversName host = true := by
  simp only [coversName, Bool.and_eq_true, sameLetters_iff] at h ⊢
  rw [h.2, lower_eq_self hstored.2]
  exact ⟨h.1, hbelow⟩

end Condition

/-! ### The rule of a line -/

namespace Rule

/-- **A suffix rule matches whole labels.**  The rule of a line with a suffix
covers a host name exactly if the labels of the suffix are the last labels of
the name in small letters.  So it never covers a name with another character
than a dot in front of the suffix; it covers the suffix with any labels in
front of it; the case of letters does not matter; and whatever a rule on the
suffix as a name covers, it covers as well. -/
theorem suffix_covers_whole_labels {line : String} {r : Rule} (h : parse line = .ok r)
    (hkind : kindOf? line = some .domainSuffix) :
    ∃ suffix, suffix = lower (withoutDot (valueOf line)) ∧ r.condition = .domainSuffix suffix ∧
      (∀ host, r.condition.coversName host = true ↔
        host ≠ "" ∧ labels suffix <:+ labels (lower host)) ∧
      (∀ host front c, c ≠ '.' → (lower host).toList = front ++ c :: suffix.toList →
        r.condition.coversName host = false) ∧
      (∀ host above, lower host = ".".intercalate (above ++ [suffix]) →
        r.condition.coversName host = true) ∧
      (∀ host host', sameLetters host host' = true →
        r.condition.coversName host = r.condition.coversName host') ∧
      ∀ line' r', parse line' = .ok r' → kindOf? line' = some .domain →
        valueOf line' = suffix →
        ∀ host, r'.condition.coversName host = true → r.condition.coversName host = true := by
  obtain ⟨hne, hcondition⟩ :=
    Kind.domainSuffix_condition_eq_ok_iff.mp (condition_of_parse_kind h hkind)
  have hstored := (stored_of_parse h).1
  refine ⟨_, rfl, hcondition, ?_⟩
  rw [hcondition] at hstored ⊢
  refine ⟨fun host => Condition.coversName_domainSuffix_iff,
    fun host front c => Condition.coversName_eq_false_of_append,
    fun host above => Condition.coversName_of_lower_eq (mt lower_eq_empty_iff.mp hne),
    fun host host' => Condition.coversName_congr _, ?_⟩
  intro line' r' h' hkind' hvalue host hcovers
  obtain ⟨-, hname⟩ := Kind.domain_condition_eq_ok_iff.mp (condition_of_parse_kind h' hkind')
  rw [hname, hvalue, lower_eq_self hstored.2] at hcovers
  exact Condition.isBelow_of_coversName_domain (Condition.isBelow_iff.mpr (.inl rfl)) hstored hcovers

/-- The rule on `apple.com` and three names. -/
theorem suffix_covers_whole_labels_sample :
    parse "proxy domain-suffix .Apple.com" = .ok ⟨.proxy, .domainSuffix "apple.com"⟩ ∧
    Condition.coversName (.domainSuffix "apple.com") "CDN.Store.Apple.com" = true ∧
    Condition.coversName (.domainSuffix "apple.com") "notapple.com" = false ∧
    Condition.coversName (.domainSuffix "apple.com") "com" = false := by
  have h : parse "proxy domain-suffix .Apple.com" = .ok ⟨.proxy, .domainSuffix "apple.com"⟩ := by
    decide +kernel
  have hkind : kindOf? "proxy domain-suffix .Apple.com" = some .domainSuffix := by decide +kernel
  obtain ⟨suffix, -, hcondition, hlabels, hmiddle, habove, -, -⟩ :=
    suffix_covers_whole_labels h hkind
  obtain rfl : "apple.com" = suffix := Condition.domainSuffix.inj hcondition
  refine ⟨h, habove _ ["cdn", "store"] (by decide +kernel),
    hmiddle _ ['n', 'o'] 't' (by decide) (by decide +kernel), ?_⟩
  rw [← Bool.not_eq_true]
  exact fun hcovers => absurd ((hlabels "com").mp hcovers).2 (by decide +kernel)

end Rule
end EgressPolicy
