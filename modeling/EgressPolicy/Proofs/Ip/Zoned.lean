/-
EgressPolicy/Proofs/Ip/Zoned.lean

Which addresses with a zone are read back from their text.

The text of a zoned address is cut again at its last percent sign.  That is the
one that was written if the zone holds no other, and no address text holds one
at all.  Reading brings the address to its canonical form and forgets a zone
without characters; whatever it gives has neither, and is read back
(`reads_back_iff_wellFormed`).

A text that is an address as it stands has no percent sign, so it is read as
that address in its canonical form, without a zone (`ofString?_of_ip`).
-/
import Mathlib
import EgressPolicy.Proofs.Ip.Dialect
import EgressPolicy.Proofs.Text.Cut

namespace EgressPolicy

open Text

/-! ### Canonical addresses -/

namespace Ip

/-- The address is one of `::ffff:0:0/96`, with an IPv4 address in its last bits. -/
def IsMapped (ip : Ip) : Prop := ∃ low : BitVec 32, ip = v6 (0xFFFF#96 ++ low)

theorem mapped?_eq_some_iff {bits : BitVec 128} {low : BitVec 32} :
    mapped? bits = some low ↔ bits = 0xFFFF#96 ++ low := by
  rw [mapped?]
  constructor
  · intro h
    split at h
    · rename_i hhigh
      rw [← hhigh, ← Option.some.inj h,
        BitVec.extractLsb'_append_extractLsb'_eq_extractLsb' (by rfl)]
      exact BitVec.extractLsb'_eq_self.symm
    · cases h
  · rintro rfl
    have hhigh : (0xFFFF#96 ++ low).extractLsb' 32 96 = 0xFFFF#96 :=
      BitVec.extractLsb'_append_eq_left
    have hlow : (0xFFFF#96 ++ low).extractLsb' 0 32 = low := BitVec.extractLsb'_append_eq_right
    rw [if_pos hhigh, hlow]

/-- The canonical addresses are those that are not in IPv6 clothing. -/
theorem canonical_eq_self_iff {ip : Ip} : ip.canonical = ip ↔ ¬ ip.IsMapped := by
  rcases ip with bits | bits
  · simp [IsMapped]
  · rcases hmapped : mapped? bits with - | low
    · have hnot : ¬ (v6 bits).IsMapped := by
        rintro ⟨low, hbits⟩
        rw [mapped?_eq_some_iff.mpr (v6.inj hbits)] at hmapped
        cases hmapped
      simp [canonical, hmapped, hnot]
    · have his : (v6 bits).IsMapped := ⟨low, congrArg v6 (mapped?_eq_some_iff.mp hmapped)⟩
      simp [canonical, hmapped, his]

end Ip

namespace ZonedIp

/-! ### Cuts at the percent sign -/

/-- A text without a percent sign, behind one that does not stand at the start,
is the zone part if it is not empty. -/
theorem split_append_percent {host zone : List Char} (hhost : host ≠ []) (hzone : '%' ∉ zone) :
    split (host ++ '%' :: zone) = (host, if zone = [] then none else some zone) := by
  obtain ⟨c, cs, rfl⟩ := List.exists_cons_of_ne_nil hhost
  rw [split, cutLast?_append_sep _ hzone]

/-- A zone part has a character, and none of them is a percent sign. -/
theorem zone_of_split {cs host zone : List Char} (h : split cs = (host, some zone)) :
    zone ≠ [] ∧ '%' ∉ zone := by
  rw [split] at h
  split at h
  · rename_i c before after hcut
    obtain ⟨-, hafter⟩ := eq_of_cutLast? hcut
    split at h
    · cases h
    · rename_i hne
      cases h
      exact ⟨hne, hafter⟩
  · cases h

/-- A destination without a zone is its address text, and perhaps an idle percent sign. -/
theorem eq_of_split {cs host : List Char} (h : split cs = (host, none)) :
    cs = host ∨ cs = host ++ ['%'] := by
  rw [split] at h
  split at h
  · rename_i c before after hcut
    obtain ⟨hcs, -⟩ := eq_of_cutLast? hcut
    rw [Prod.mk.injEq] at h
    obtain ⟨rfl, hafter⟩ := h
    split at hafter
    · rename_i hnil
      exact .inr (by rw [hcs, hnil])
    · cases hafter
  · exact .inl (Prod.mk.inj h).1

/-! ### Addresses and their texts -/

/-- A destination is an address if its address part is. -/
theorem ofString?_eq (s : String) :
    ofString? s = (Dialect.literal.ip? (split s.toList).1).map
      fun ip => ⟨ip.canonical, (split s.toList).2.map String.ofList⟩ := rfl

/-- Without a percent sign a destination is an address if its whole text is one. -/
theorem ofString?_of_percent_notMem {s : String} (h : '%' ∉ s.toList) :
    ofString? s = (Ip.ofString? s).map fun ip => ⟨ip.canonical, none⟩ := by
  rw [ofString?_eq, split_of_percent_notMem h]
  rfl

/-- An address that stands alone has no percent sign. -/
theorem percent_notMem_of_ip {s : String} {ip : Ip} (h : Ip.ofString? s = some ip) :
    '%' ∉ s.toList := by
  intro hmem
  rw [Ip.ofString?, Dialect.literal.ip?_eq_none hmem (by decide) (by decide) (by decide)] at h
  cases h

/-- An address that stands alone is a destination without a zone. -/
theorem ofString?_of_ip {s : String} {ip : Ip} (h : Ip.ofString? s = some ip) :
    ofString? s = some ⟨ip.canonical, none⟩ := by
  rw [ofString?_of_percent_notMem (percent_notMem_of_ip h), h]
  rfl

/-- The texts of addresses alone are the destinations that are addresses and
have no percent sign. -/
theorem exists_ip_iff {s : String} :
    (∃ ip, Ip.ofString? s = some ip) ↔ '%' ∉ s.toList ∧ ∃ a, ofString? s = some a := by
  constructor
  · rintro ⟨ip, h⟩
    exact ⟨percent_notMem_of_ip h, _, ofString?_of_ip h⟩
  · rintro ⟨hpercent, a, ha⟩
    rw [ofString?_of_percent_notMem hpercent] at ha
    obtain ⟨ip, hip, -⟩ := Option.map_eq_some_iff.mp ha
    exact ⟨ip, hip⟩

/-- The address is canonical, and its zone, if it has one, is a text that is not
empty and has no percent sign. -/
structure WellFormed (a : ZonedIp) : Prop where
  not_isMapped : ¬ a.ip.IsMapped
  zone : ∀ zone ∈ a.zone, zone ≠ "" ∧ '%' ∉ zone.toList

/-- What is read is well-formed. -/
theorem wellFormed_of_ofString? {s : String} {a : ZonedIp} (h : ofString? s = some a) :
    a.WellFormed := by
  rw [ofString?_eq] at h
  obtain ⟨ip, -, rfl⟩ := Option.map_eq_some_iff.mp h
  refine ⟨Ip.canonical_eq_self_iff.mp ip.canonical_canonical, fun zone hzone => ?_⟩
  obtain ⟨cs, hcs, rfl⟩ := Option.map_eq_some_iff.mp hzone
  obtain ⟨hne, hpercent⟩ := zone_of_split (Prod.ext rfl hcs)
  exact ⟨by simpa using hne, by simpa using hpercent⟩

/-- What is well-formed is read back from its text. -/
theorem WellFormed.ofString?_render {a : ZonedIp} (h : a.WellFormed) :
    ofString? a.render = some a := by
  obtain ⟨ip, zone⟩ := a
  have hip : ip.canonical = ip := Ip.canonical_eq_self_iff.mpr h.not_isMapped
  rcases zone with - | zone
  · rw [render, ZonedIp.ofString?_render, hip]
  · obtain ⟨hne, hpercent⟩ := h.zone zone rfl
    have hcs : (render ⟨ip, some zone⟩).toList = ip.chars ++ '%' :: zone.toList := by
      simp [render, Ip.render]
    rw [ofString?_eq, hcs, split_append_percent ip.chars_ne_nil hpercent,
      if_neg (mt String.toList_eq_nil_iff.mp hne), Dialect.literal.ip?_chars (by decide)]
    simp [hip]

/-- **A zoned address is read back from its text exactly if it is well-formed**,
that is, if it is no IPv4 address in IPv6 clothing and its zone is absent, or
not empty and without a percent sign.  Whatever is read is so, and printing it
loses nothing; and all that reads as an address alone is read as that address
in its canonical form, without a zone. -/
theorem reads_back_iff_wellFormed :
    (∀ a : ZonedIp, ofString? a.render = some a ↔ a.WellFormed) ∧
    (∀ s a, ofString? s = some a → a.WellFormed ∧ ofString? a.render = some a) ∧
    ∀ s ip, Ip.ofString? s = some ip → ofString? s = some ⟨ip.canonical, none⟩ := by
  refine ⟨fun a => ⟨wellFormed_of_ofString?, WellFormed.ofString?_render⟩, ?_,
    fun s ip => ofString?_of_ip⟩
  intro s a h
  have hwell := wellFormed_of_ofString? h
  exact ⟨hwell, hwell.ofString?_render⟩

/-- An address in IPv6 clothing is undressed, with its zone and without one, and
what was read with the zone is read back. -/
theorem reads_back_iff_wellFormed_sample :
    ofString? "::FFFF:10.0.0.1%eth0" = some ⟨.v4 0x0A000001#32, some "eth0"⟩ ∧
    ofString? "10.0.0.1%eth0" = some ⟨.v4 0x0A000001#32, some "eth0"⟩ ∧
    Ip.ofString? "::FFFF:10.0.0.1" = some (.v6 0xFFFF0A000001#128) ∧
    ofString? "::FFFF:10.0.0.1" = some ⟨.v4 0x0A000001#32, none⟩ := by
  have hzoned : ofString? "::FFFF:10.0.0.1%eth0" = some ⟨.v4 0x0A000001#32, some "eth0"⟩ := by
    decide +kernel
  have halone : Ip.ofString? "::FFFF:10.0.0.1" = some (.v6 0xFFFF0A000001#128) := by decide +kernel
  have hrender : render ⟨.v4 0x0A000001#32, some "eth0"⟩ = "10.0.0.1%eth0" := by decide +kernel
  refine ⟨hzoned, ?_, halone, reads_back_iff_wellFormed.2.2 _ _ halone⟩
  rw [← hrender]
  exact (reads_back_iff_wellFormed.2.1 _ _ hzoned).2

end ZonedIp
end EgressPolicy
