/-
EgressPolicy/Proofs/Rule/FirstBits.lean

Which addresses a rule on a network covers.

A line writes a network as an address and a number of bits.  What is stored is
another network, as the other bits of the address are cleared; but these are
the bits that no network looks at.  So the rule covers the addresses of the
same family that start with as many bits of the address as it is written, and
would do so had nothing been cleared (`cidr_covers_first_bits`).
-/
import Mathlib
import EgressPolicy.Proofs.Ip.Bits
import EgressPolicy.Proofs.Rule.Grammar
import EgressPolicy.Rule.Matching

namespace EgressPolicy

open Text

/-- A condition on a network asks no database. -/
theorem Condition.coversIp_cidr_iff {n : Network} {reader : Option CountryReader} {x : Ip} :
    (cidr n).coversIp reader x = true ↔
      x.isV4 = n.ip.isV4 ∧ x.bits.take n.len = n.ip.bits.take n.len :=
  Network.contains_iff_bits

/-- Clearing the bits that do not count loses and adds no address. -/
@[simp] theorem Condition.coversIp_cidr_truncate (n : Network) :
    (cidr n.truncate).coversIp = (cidr n).coversIp := by
  funext reader x
  exact n.contains_truncate x

namespace Rule

/-- **A network rule covers the addresses that start with its bits.**  A line
with a network writes an address, which is the one that its text would be if it
stood alone, and a number of bits that the address has.  Its rule covers
exactly the addresses of the same family with the same first bits, that many of
them, whatever the other bits of the written address are.  And of any network
the other bits can be cleared without a change in what is covered. -/
theorem cidr_covers_first_bits :
    (∀ line r, parse line = .ok r → kindOf? line = some .cidr →
      (∃ text digits : String, valueOf line = text ++ "/" ++ digits) ∧
      ∀ text digits : String, valueOf line = text ++ "/" ++ digits →
        ∃ addr len, Dialect.network.ip? text.toList = some addr ∧
          (∀ ip, Ip.ofString? text = some ip → ip = addr) ∧
          readNat? 10 digits.toList = some len ∧ len ≤ addr.bits.length ∧
          ∀ reader x, r.condition.coversIp reader x = true ↔
            x.isV4 = addr.isV4 ∧ x.bits.take len = addr.bits.take len) ∧
    ∀ n : Network, n.truncate.HostBitsZero ∧
      ∀ reader x, (Condition.cidr n).coversIp reader x
        = (Condition.cidr n.truncate).coversIp reader x := by
  constructor
  · intro line r h hkind
    obtain ⟨n, hn, hcondition⟩ :=
      Kind.cidr_condition_eq_ok_iff.mp (condition_of_parse_kind h hkind)
    refine ⟨Network.exists_slash_of_ofString? hn, fun text digits hvalue => ?_⟩
    have htexts : text ++ "/" ++ digits = String.ofList (text.toList ++ '/' :: digits.toList) := by
      rw [← String.toList_inj]
      simp
    rw [hvalue, htexts] at hn
    obtain ⟨haddr, hlen⟩ := Network.reads_of_ofString? hn
    have halone : ∀ ip, Ip.ofString? text = some ip → ip = n.ip := by
      intro ip hip
      have hsame := Dialect.ip?_of_stricter Dialect.literal_stricter_network hip
      exact Option.some.inj (hsame.symm.trans haddr)
    refine ⟨n.ip, n.len, haddr, halone, hlen, n.len_le_length_bits, fun reader x => ?_⟩
    rw [hcondition, Condition.coversIp_cidr_truncate, Condition.coversIp_cidr_iff]
  · intro n
    refine ⟨n.hostBitsZero_truncate, fun reader x => ?_⟩
    rw [Condition.coversIp_cidr_truncate]

/-- Twelve bits count, and an address that goes on with other bits is covered. -/
theorem cidr_covers_first_bits_sample :
    parse "block cidr 172.16.5.4/12"
      = .ok ⟨.block, .cidr (.v4 ⟨0xAC100000#32, 12, by decide⟩)⟩ ∧
    Condition.coversIp (.cidr (.v4 ⟨0xAC100000#32, 12, by decide⟩)) none (.v4 0xAC1FFFFF#32)
      = true ∧
    Condition.coversIp (.cidr (.v4 ⟨0xAC100000#32, 12, by decide⟩)) none (.v4 0xAC200000#32)
      = false := by
  have h : parse "block cidr 172.16.5.4/12"
      = .ok ⟨.block, .cidr (.v4 ⟨0xAC100000#32, 12, by decide⟩)⟩ := by decide +kernel
  obtain ⟨addr, len, haddr, -, hlen, -, hcovers⟩ :=
    (cidr_covers_first_bits.1 _ _ h (by decide +kernel)).2 "172.16.5.4" "12" (by decide +kernel)
  have hread : Dialect.network.ip? "172.16.5.4".toList = some (.v4 0xAC100504#32) := by
    decide +kernel
  have hcount : readNat? 10 "12".toList = some 12 := by decide +kernel
  obtain rfl := Option.some.inj (hread.symm.trans haddr)
  obtain rfl := Option.some.inj (hcount.symm.trans hlen)
  refine ⟨h, (hcovers none _).mpr (by decide +kernel), ?_⟩
  rw [← Bool.not_eq_true, hcovers]
  decide +kernel

end Rule
end EgressPolicy
