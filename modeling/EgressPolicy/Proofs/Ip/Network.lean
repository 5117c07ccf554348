/-
EgressPolicy/Proofs/Ip/Network.lean

The text of a network reads back, and which networks are truncated.

A network's text is an address, a slash and a length, and neither of the two
holds a slash.  Reading keeps the bits that do not count, so every network
comes back as it was (`ofString?_render`); clearing them changes nothing
exactly if they are all zero (`truncate_eq_self_iff`).
-/
import Mathlib
import EgressPolicy.Proofs.Ip.Written

namespace EgressPolicy

open Text

/-! ### Bits that do not count -/

namespace Block

variable {w : Nat}

/-- All bits that do not count are zero. -/
def HostBitsZero (b : Block w) : Prop := ∀ i < w - b.len, b.addr.getLsbD i = false

instance (b : Block w) : Decidable b.HostBitsZero :=
  inferInstanceAs (Decidable (∀ i < w - b.len, b.addr.getLsbD i = false))

theorem truncate_eq_self_iff {b : Block w} : b.truncate = b ↔ b.HostBitsZero := by
  have haddr : b.truncate = b ↔ b.addr >>> (w - b.len) <<< (w - b.len) = b.addr := by
    rw [truncate]
    constructor
    · intro h
      exact congrArg addr h
    · intro h
      rw [h]
  rw [haddr]
  constructor
  · intro h i hi
    rw [← h, BitVec.getLsbD_shiftLeft]
    simp [hi]
  · intro h
    apply BitVec.eq_of_getLsbD_eq
    intro i hi
    rw [BitVec.getLsbD_shiftLeft, BitVec.getLsbD_ushiftRight]
    -- shifting back brings zeros into the low bits and the others to their old places
    by_cases hlow : i < w - b.len
    · simp [hlow, h i hlow]
    · have hsum : w - b.len + (i - (w - b.len)) = i := by omega
      simp [hi, hlow, hsum]

theorem hostBitsZero_single (addr : BitVec w) : (single addr).HostBitsZero := by
  intro i hi
  simp [single] at hi

/-- A written length reads back. -/
theorem len?_toDigits {digits n : Nat} (hn : n ≤ w) (hdigits : 0 < digits)
    (hw : w < 10 ^ digits) : len? w digits (Nat.toDigits 10 n) = some ⟨n, hn⟩ := by
  have hlen : (Nat.toDigits 10 n).length ≤ digits := by
    rw [Nat.length_toDigits_le_iff (by decide) hdigits]
    omega
  rw [len?, if_pos hlen, readNat?_toDigits (by decide) (by decide)]
  simp [hn]

end Block

namespace Network

/-- All bits that do not count are zero. -/
def HostBitsZero : Network → Prop
  | v4 b => b.HostBitsZero
  | v6 b => b.HostBitsZero

instance : DecidablePred HostBitsZero
  | v4 b => inferInstanceAs (Decidable b.HostBitsZero)
  | v6 b => inferInstanceAs (Decidable b.HostBitsZero)

theorem truncate_eq_self_iff {n : Network} : n.truncate = n ↔ n.HostBitsZero := by
  rcases n with b | b <;> simp [truncate, HostBitsZero, Block.truncate_eq_self_iff]

theorem hostBitsZero_truncate (n : Network) : n.truncate.HostBitsZero :=
  truncate_eq_self_iff.mp (truncate_truncate n)

theorem hostBitsZero_single (ip : Ip) : (single ip).HostBitsZero := by
  rcases ip with bits | bits <;> exact Block.hostBitsZero_single bits

/-! ### Texts -/

theorem toList_render (n : Network) :
    n.render.toList = n.ip.chars ++ '/' :: Nat.toDigits 10 n.len := by
  have hrender : n.render = n.ip.render ++ "/" ++ toString n.len := rfl
  rw [hrender]
  simp [Ip.render]

/-- The text of a network has no blanks. -/
theorem not_blank_of_mem_render {n : Network} {c : Char} (h : c ∈ n.render.toList) :
    isBlank c = false := by
  have hdigit : ∀ d < 10, isBlank d.digitChar = false := by decide
  rw [toList_render, List.mem_append, List.mem_cons] at h
  rcases h with h | rfl | h
  · exact Ip.not_blank_of_mem_chars h
  · decide
  · obtain ⟨d, hd, rfl⟩ := mem_toDigits (by decide) h
    exact hdigit d hd

theorem render_ne_empty (n : Network) : n.render ≠ "" := by
  intro h
  have hnil := congrArg String.toList h
  rw [toList_render] at hnil
  simp at hnil

/-- The text of a network reads back as that network. -/
@[simp] theorem ofString?_render (n : Network) : ofString? n.render = some n := by
  have hslash : '/' ∉ n.ip.chars := Ip.not_mem_chars (by decide) (by decide) (by decide)
  have hlen : '/' ∉ Nat.toDigits 10 n.len := not_mem_toDigits (by decide) (by decide) _ (by decide)
  rw [ofString?, toList_render, List.splitOn_append_cons_self_of_not_mem hslash,
    List.splitOn_eq_singleton hlen]
  simp only [Dialect.network.ip?_chars (by decide)]
  rcases n with b | b
  · simp [ip, len, Block.len?_toDigits b.len_le]
  · simp [ip, len, Block.len?_toDigits b.len_le]

end Network
end EgressPolicy
