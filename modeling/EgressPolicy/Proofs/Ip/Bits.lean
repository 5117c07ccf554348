/-
EgressPolicy/Proofs/Ip/Bits.lean

Networks by the bits of addresses.

An address is a number, and its bits are the digits of that number in base
two.  A network compares numbers from which the same count of last bits has
been shifted out; what is left are the first bits, so the network contains the
addresses of its family that agree with it there (`Network.contains_iff_bits`).
It is read from two texts around a slash, of which the first is the address and
the second tells how many bits count (`Network.reads_of_ofString?`).
-/
import Mathlib
import EgressPolicy.Proofs.Ip.Dialect
import EgressPolicy.Proofs.Text.Cut
import EgressPolicy.Proofs.Text.Digits

namespace EgressPolicy

open Text

/-! ### Bits -/

/-- The bits of an address, the most significant first. -/
def Ip.bits : Ip → List Nat
  | .v4 bits => digitList 2 32 bits.toNat
  | .v6 bits => digitList 2 128 bits.toNat

example : (Ip.v4 0xC0A80001#32).bits.take 12 = [1, 1, 0, 0, 0, 0, 0, 0, 1, 0, 1, 0] := by decide

/-- A block contains what agrees with it in the bits that count. -/
theorem Block.contains_iff_bits {w : Nat} {b : Block w} {x : BitVec w} :
    b.contains x = true ↔
      (digitList 2 w x.toNat).take b.len = (digitList 2 w b.addr.toNat).take b.len := by
  have hlt : ∀ a : BitVec w, a.toNat / 2 ^ (w - b.len) < 2 ^ b.len := by
    intro a
    have hpow : 2 ^ (w - b.len) * 2 ^ b.len = 2 ^ w := by
      rw [← Nat.pow_add, Nat.sub_add_cancel b.len_le]
    exact Nat.div_lt_of_lt_mul (hpow.symm ▸ a.isLt)
  rw [take_digitList b.len_le, take_digitList b.len_le, digitList_inj (hlt x) (hlt b.addr),
    contains, beq_iff_eq, ← BitVec.toNat_inj, BitVec.toNat_ushiftRight, BitVec.toNat_ushiftRight,
    Nat.shiftRight_eq_div_pow, Nat.shiftRight_eq_div_pow]
  exact eq_comm

namespace Network

/-- A network contains the addresses of its family that agree with its own in
the bits that count. -/
theorem contains_iff_bits {n : Network} {x : Ip} :
    n.contains x = true ↔ x.isV4 = n.ip.isV4 ∧ x.bits.take n.len = n.ip.bits.take n.len := by
  rcases n with b | b <;> rcases x with a | a <;>
    simp [contains, ip, len, Ip.isV4, Ip.bits, Block.contains_iff_bits]

/-- No more bits count than the address has. -/
theorem len_le_length_bits (n : Network) : n.len ≤ n.ip.bits.length := by
  rcases n with b | b <;> simpa [len, ip, Ip.bits] using b.len_le

/-! ### Texts -/

/-- A length that is read is the number that its text writes. -/
theorem readNat?_of_len? {w digits : Nat} {cs : List Char} {n : { n : Nat // n ≤ w }}
    (h : Block.len? w digits cs = some n) : readNat? 10 cs = some n.1 := by
  rw [Block.len?] at h
  split at h
  · obtain ⟨k, hk, hn⟩ := Option.bind_eq_some_iff.mp h
    beta_reduce at hn
    split at hn
    · obtain rfl := Option.some.inj hn
      exact hk
    · cases hn
  · cases h

/-- What reads as a network has a slash. -/
theorem exists_slash_of_ofString? {s : String} {n : Network} (h : ofString? s = some n) :
    ∃ text digits : String, s = text ++ "/" ++ digits := by
  rw [ofString?] at h
  split at h
  · rename_i addr len hpieces
    have hjoin : ['/'].intercalate (s.toList.splitOn '/') = s.toList := List.intercalate_splitOn '/'
    rw [hpieces] at hjoin
    refine ⟨String.ofList addr, String.ofList len, ?_⟩
    rw [← String.toList_inj, ← hjoin]
    simp [List.intercalate_cons_cons]
  · cases h

/-- The texts around the slash are an address and the number of bits that count. -/
theorem reads_of_ofString? {addr len : List Char} {n : Network}
    (h : ofString? (String.ofList (addr ++ '/' :: len)) = some n) :
    Dialect.network.ip? addr = some n.ip ∧ readNat? 10 len = some n.len := by
  rw [ofString?, String.toList_ofList] at h
  split at h
  · rename_i addr' len' hpieces
    obtain ⟨rfl, rfl⟩ := eq_of_splitOn_append_cons hpieces
    split at h
    · rename_i bits hbits
      obtain ⟨k, hk, rfl⟩ := Option.map_eq_some_iff.mp h
      exact ⟨hbits, readNat?_of_len? hk⟩
    · rename_i bits hbits
      obtain ⟨k, hk, rfl⟩ := Option.map_eq_some_iff.mp h
      exact ⟨hbits, readNat?_of_len? hk⟩
    · cases h
  · cases h

end Network
end EgressPolicy
