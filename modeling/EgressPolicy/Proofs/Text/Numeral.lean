/-
EgressPolicy/Proofs/Text/Numeral.lean

Numbers written out in digits and read back.

Writing puts the last digit at the end of what is written for the rest of the
number, and reading takes up one digit at the end of what was read; so both
are followed by one induction, which divides by the base.

Main results: reading gives back what was written (`readNat?_toDigits`); all
that is written is digits (`mem_toDigits`), so no separator is ever among
them (`not_mem_toDigits`), nor a blank (`digitIn?_eq_none_of_blank`); and only
the number zero starts with a zero (`head?_toDigits`), which is what a strict
reader of octets asks for.  In base ten it is also known which texts are read
(`readNat?_ten_eq_some_iff`).
-/
import Mathlib
import EgressPolicy.Text.Blank
import EgressPolicy.Text.Numeral

namespace EgressPolicy.Text

/-! ### Single digits -/

theorem digitValue?_digitChar : ∀ d < 16, digitValue? (Nat.digitChar d) = some d := by
  decide

theorem digitIn?_digitChar {base d : Nat} (hb : base ≤ 16) (hd : d < base) :
    digitIn? base d.digitChar = some d := by
  rw [digitIn?, digitValue?_digitChar d (by omega)]
  simp [hd]

/-- A decimal digit is a hexadecimal one. -/
theorem digitIn?_ten_eq_none {c : Char} (h : digitIn? 16 c = none) : digitIn? 10 c = none := by
  rw [digitIn?, Option.filter_eq_none_iff] at h ⊢
  intro n hn hlt
  exact h n hn (by simp only [decide_eq_true_eq] at hlt ⊢; omega)

/-- No blank is a digit. -/
theorem digitIn?_eq_none_of_blank {base : Nat} {c : Char} (h : isBlank c = true) :
    digitIn? base c = none := by
  have hvalue : digitValue? c = none := by
    simp only [isBlank, blankRanges, List.any_cons, List.any_nil, Bool.or_eq_true, Bool.and_eq_true,
      decide_eq_true_eq, Bool.false_eq_true, or_false, Char.toNat] at h
    simp only [digitValue?, Char.le_def, UInt32.le_iff_toNat_le, Char.reduceVal,
      UInt32.reduceToNat]
    rw [if_neg (by omega), if_neg (by omega), if_neg (by omega)]
  rw [digitIn?, hvalue]
  rfl

/-- Reading takes up one more digit at the end. -/
theorem readNat?_concat {base n d : Nat} {cs : List Char} {c : Char}
    (hcs : readNat? base cs = some n) (hc : digitIn? base c = some d) :
    readNat? base (cs ++ [c]) = some (base * n + d) := by
  have hne : cs ≠ [] := by
    rintro rfl
    simp at hcs
  rw [readNat?, if_neg hne] at hcs
  rw [readNat?, if_neg (by simp), List.foldlM_append, hcs]
  simp [hc]

/-! ### Whole numbers -/

/-- A written number reads back as itself. -/
theorem readNat?_toDigits {base : Nat} (h1 : 1 < base) (hb : base ≤ 16) (n : Nat) :
    readNat? base (Nat.toDigits base n) = some n := by
  induction n using Nat.strong_induction_on with
  | _ n ih =>
    by_cases hn : n < base
    · rw [Nat.toDigits_of_lt_base hn]
      simp [readNat?, digitIn?_digitChar hb hn]
    · have hdiv : n / base < n := Nat.div_lt_self (by omega) h1
      have hmod : n % base < base := Nat.mod_lt n (by omega)
      rw [Nat.toDigits_of_base_le h1 (by omega),
        readNat?_concat (ih _ hdiv) (digitIn?_digitChar hb hmod), Nat.div_add_mod]

/-- All that is written is digits. -/
theorem mem_toDigits {base : Nat} (h1 : 1 < base) {n : Nat} {c : Char}
    (hc : c ∈ Nat.toDigits base n) : ∃ d < base, c = d.digitChar := by
  induction n using Nat.strong_induction_on with
  | _ n ih =>
    by_cases hn : n < base
    · rw [Nat.toDigits_of_lt_base hn, List.mem_singleton] at hc
      exact ⟨n, hn, hc⟩
    · rw [Nat.toDigits_of_base_le h1 (by omega), List.mem_append, List.mem_singleton] at hc
      rcases hc with hc | rfl
      · exact ih _ (Nat.div_lt_self (by omega) h1) hc
      · exact ⟨n % base, Nat.mod_lt n (by omega), rfl⟩

/-- A character that is no digit is not written. -/
theorem not_mem_toDigits {base : Nat} (h1 : 1 < base) (hb : base ≤ 16) (n : Nat) {c : Char}
    (hc : digitIn? base c = none) : c ∉ Nat.toDigits base n := by
  intro hmem
  obtain ⟨d, hd, rfl⟩ := mem_toDigits h1 hmem
  rw [digitIn?_digitChar hb hd] at hc
  cases hc

/-- Written numbers hold no separator. -/
theorem not_mem_map_toDigits {base : Nat} (h1 : 1 < base) (hb : base ≤ 16) {c : Char}
    (hc : digitIn? base c = none) (ns : List Nat) : ∀ p ∈ ns.map (Nat.toDigits base), c ∉ p := by
  intro p hp
  obtain ⟨n, -, rfl⟩ := List.mem_map.mp hp
  exact not_mem_toDigits h1 hb n hc

theorem nil_notMem_map_toDigits (base : Nat) (ns : List Nat) :
    [] ∉ ns.map (Nat.toDigits base) := by
  simp

/-- A text with a character that is no digit is no number. -/
theorem readNat?_eq_none {base : Nat} {cs : List Char} {c : Char} (hmem : c ∈ cs)
    (hc : digitIn? base c = none) : readNat? base cs = none := by
  have hfold : ∀ n, cs.foldlM (fun n c => (digitIn? base c).map (base * n + ·)) n = none := by
    induction cs with
    | nil => cases hmem
    | cons x cs ih =>
      intro n
      rcases List.mem_cons.mp hmem with rfl | hmem
      · simp [hc]
      · rcases e : digitIn? base x with - | d
        · simp [e]
        · simp [e, ih hmem]
  rw [readNat?, if_neg (List.ne_nil_of_mem hmem), hfold]

/-- Only zero is written with a zero in front. -/
theorem head?_toDigits {base : Nat} (h1 : 1 < base) (hb : base ≤ 16) {n : Nat} (hn : n ≠ 0) :
    (Nat.toDigits base n).head? ≠ some '0' := by
  induction n using Nat.strong_induction_on with
  | _ n ih =>
    by_cases hlt : n < base
    · rw [Nat.toDigits_of_lt_base hlt, List.head?_cons]
      intro h
      have hv := digitValue?_digitChar n (by omega)
      rw [Option.some.inj h] at hv
      exact hn (Option.some.inj hv).symm
    · have hq : n / base ≠ 0 := by
        rw [Ne, Nat.div_eq_zero_iff]
        omega
      rw [Nat.toDigits_of_base_le h1 (by omega), List.head?_append_of_ne_nil _ Nat.toDigits_ne_nil]
      exact ih _ (Nat.div_lt_self (by omega) h1) hq

/-! ### Decimal numbers -/

/-- The decimal digits are those of the library. -/
theorem digitIn?_ten (c : Char) :
    digitIn? 10 c = if c.isDigit then some (c.toNat - '0'.toNat) else none := by
  have hdigit : c.isDigit = true ↔ '0' ≤ c ∧ c ≤ '9' := by
    simp [Char.isDigit, Char.le_def]
  rw [digitIn?, digitValue?]
  by_cases h : '0' ≤ c ∧ c ≤ '9'
  · have hlt : c.toNat - '0'.toNat < 10 := by
      have : c.toNat ≤ '9'.toNat := h.2
      have h0 : '0'.toNat = 48 := rfl
      have h9 : '9'.toNat = 57 := rfl
      omega
    rw [if_pos h, if_pos (hdigit.mpr h)]
    simpa using hlt
  · rw [if_neg h, if_neg (mt hdigit.mp h)]
    -- what is left are letters, whose values are ten and more
    split
    · simp
    · split <;> simp

/-- The decimal numbers are the texts of digits, and their values are the library's. -/
theorem readNat?_ten_eq_some_iff {cs : List Char} {n : Nat} :
    readNat? 10 cs = some n ↔
      cs ≠ [] ∧ (∀ c ∈ cs, c.isDigit = true) ∧ Nat.ofDigitChars 10 cs 0 = n := by
  have hfold : ∀ m, cs.foldlM (fun n c => (digitIn? 10 c).map (10 * n + ·)) m = some n ↔
      (∀ c ∈ cs, c.isDigit = true) ∧ Nat.ofDigitChars 10 cs m = n := by
    induction cs with
    | nil => simp
    | cons c cs ih =>
      intro m
      by_cases hc : c.isDigit = true
      · rw [List.foldlM_cons, digitIn?_ten, if_pos hc, Option.map_some, Option.bind_eq_bind,
          Option.bind_some, ih, Nat.ofDigitChars_cons]
        simp [hc]
      · rw [List.foldlM_cons, digitIn?_ten, if_neg hc]
        simp [hc]
  by_cases hcs : cs = []
  · simp [hcs]
  · rw [readNat?, if_neg hcs, hfold]
    simp [hcs]

end EgressPolicy.Text
