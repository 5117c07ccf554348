/-
EgressPolicy/Proofs/Text/Digits.lean

Numbers and their digits of a fixed count.

The two maps of `Text.Numeral` are inverse up to the digits that are left
out: reading the last `k` digits of `n` gives `n` modulo `base ^ k`
(`ofDigitList_digitList`), so nothing is lost of a number below that power.
The first of the digits are those of the number without its last ones
(`take_digitList`).
-/
import Mathlib
import EgressPolicy.Text.Numeral

namespace EgressPolicy.Text

/-- Digits are below the base. -/
theorem lt_of_mem_digitList {base k n d : Nat} (hb : 0 < base)
    (h : d ∈ digitList base k n) : d < base := by
  induction k generalizing n with
  | zero => cases h
  | succ k ih =>
    rw [digitList, List.mem_append, List.mem_singleton] at h
    rcases h with h | rfl
    · exact ih h
    · exact Nat.mod_lt n hb

/-- Reading the last `k` digits gives the number modulo `base ^ k`. -/
theorem ofDigitList_digitList (base k n : Nat) :
    ofDigitList base (digitList base k n) = n % base ^ k := by
  induction k generalizing n with
  | zero => simp [digitList, ofDigitList, Nat.mod_one]
  | succ k ih =>
    rw [digitList, ofDigitList_concat, ih, Nat.pow_succ, Nat.mul_comm (base ^ k),
      Nat.mod_mul, Nat.add_comm]

/-- A number below `base ^ k` has no further digits. -/
theorem ofDigitList_digitList_of_lt {base k n : Nat} (h : n < base ^ k) :
    ofDigitList base (digitList base k n) = n := by
  rw [ofDigitList_digitList, Nat.mod_eq_of_lt h]

/-- Numbers without further digits are equal if their digits are. -/
theorem digitList_inj {base k n n' : Nat} (hn : n < base ^ k) (hn' : n' < base ^ k) :
    digitList base k n = digitList base k n' ↔ n = n' := by
  constructor
  · intro h
    rw [← ofDigitList_digitList_of_lt hn, h, ofDigitList_digitList_of_lt hn']
  · rintro rfl
    rfl

/-- The first `m` of `k` digits are those of the number without its last `k - m` digits. -/
theorem take_digitList {base k m : Nat} (h : m ≤ k) (n : Nat) :
    (digitList base k n).take m = digitList base m (n / base ^ (k - m)) := by
  induction k generalizing n with
  | zero =>
    obtain rfl : m = 0 := by omega
    rfl
  | succ k ih =>
    rcases Nat.lt_or_eq_of_le h with h | rfl
    · have hm : m ≤ k := by omega
      have hpow : base ^ (k + 1 - m) = base * base ^ (k - m) := by
        rw [← Nat.pow_succ', Nat.succ_sub hm]
      rw [digitList, List.take_append_of_le_length (by simpa using hm), ih hm, hpow,
        Nat.div_div_eq_div_mul]
    · rw [List.take_of_length_le (by simp)]
      simp

end EgressPolicy.Text
