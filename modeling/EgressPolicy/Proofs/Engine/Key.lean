/-
EgressPolicy/Proofs/Engine/Key.lean

When two destinations are remembered under one key.

Literals and host names share one memory, and a literal's key is a text that a
host name could have as well.  It never has: a text that an address is written
as reads as an address, so it is no host name.  Literals in turn have one key
exactly if they have one canonical address, because the written address gives
the address back.
-/
import Mathlib
import EgressPolicy.Engine.Basic
import EgressPolicy.Proofs.Ip.Written

namespace EgressPolicy

/-! ### What a destination turns out to be -/

theorem ZonedIp.canonical_of_ofString? {s : String} {addr : ZonedIp}
    (h : ZonedIp.ofString? s = some addr) : addr.ip.canonical = addr.ip := by
  rw [ofString?] at h
  obtain ⟨ip, -, rfl⟩ := Option.map_eq_some_iff.mp h
  exact Ip.canonical_canonical ip

namespace Destination

theorem ofString_of_some {s : String} {addr : ZonedIp} (h : ZonedIp.ofString? s = some addr) :
    ofString s = literal addr := by
  rw [ofString, h]

theorem ofString_of_none {s : String} (h : ZonedIp.ofString? s = none) :
    ofString s = host s := by
  rw [ofString, h]

/-! ### Keys -/

/-- The key of a literal reads as its address. -/
theorem ofString?_key_literal {s : String} {addr : ZonedIp}
    (h : ZonedIp.ofString? s = some addr) :
    ZonedIp.ofString? (ofString s).key = some ⟨addr.ip, none⟩ := by
  rw [ofString_of_some h, key, ZonedIp.ofString?_render, ZonedIp.canonical_of_ofString? h]

/-- The key of a host name is the name, and reads as no address. -/
theorem key_host {s : String} (h : ZonedIp.ofString? s = none) : (ofString s).key = s := by
  rw [ofString_of_none h, key]

/-- Two destinations have one key if both are literals of one canonical address
or both are the same host name, and only then. -/
theorem key_eq_iff {s t : String} :
    (ofString s).key = (ofString t).key ↔
      (∃ a b, ZonedIp.ofString? s = some a ∧ ZonedIp.ofString? t = some b ∧ a.ip = b.ip) ∨
      (ZonedIp.ofString? s = none ∧ ZonedIp.ofString? t = none ∧ s = t) := by
  constructor
  · intro h
    rcases hs : ZonedIp.ofString? s with - | a <;> rcases ht : ZonedIp.ofString? t with - | b
    · rw [key_host hs, key_host ht] at h
      exact .inr ⟨rfl, rfl, h⟩
    · -- a host name that were the key of a literal would be a literal
      have hkey := ofString?_key_literal ht
      rw [← h, key_host hs, hs] at hkey
      cases hkey
    · have hkey := ofString?_key_literal hs
      rw [h, key_host ht, ht] at hkey
      cases hkey
    · have ha := ofString?_key_literal hs
      rw [h, ofString?_key_literal ht] at ha
      simp only [Option.some.injEq, ZonedIp.mk.injEq, and_true] at ha
      exact .inl ⟨a, b, rfl, rfl, ha.symm⟩
  · rintro (⟨a, b, hs, ht, hip⟩ | ⟨-, -, rfl⟩)
    · rw [ofString_of_some hs, ofString_of_some ht, key, key, hip]
    · rfl

end Destination
end EgressPolicy
