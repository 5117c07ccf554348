/-
EgressPolicy/Proofs/Ip/Dialect.lean

What the dialects of address text have in common.

The address of a network is read in a laxer dialect than an address that
stands alone.  Laxer means more than that more texts are read: a text that
the strict dialect reads is read by the lax one *as the same address*
(`ip?_of_stricter`).  This needs an argument where the two families meet,
because a reader tries IPv4 first: a text that is IPv6 for one dialect might
be IPv4 for the other.  It never is, since IPv6 texts have a colon and IPv4
texts have none (`colon_mem_of_v6?`).

No dialect reads a text with a character that is neither a hexadecimal digit
nor a colon nor a dot (`ip?_eq_none`), so an address ends where a slash, a
percent sign or a blank stands.
-/
import Mathlib
import EgressPolicy.Proofs.Ip.Written

namespace EgressPolicy

open Text

namespace Dialect

/-- Whatever `d` allows, `d'` allows as well. -/
structure Stricter (d d' : Dialect) : Prop where
  paddedOctets : d.paddedOctets = true → d'.paddedOctets = true
  leastOmitted : d'.leastOmitted ≤ d.leastOmitted

/-- An address in front of a slash may be anything that may stand alone. -/
theorem literal_stricter_network : literal.Stricter network := ⟨fun _ => rfl, by decide⟩

/-! ### What the strict dialect reads -/

namespace Stricter

variable {d d' : Dialect}

theorem octet? (h : d.Stricter d') {cs : List Char} {n : Nat} (hread : d.octet? cs = some n) :
    d'.octet? cs = some n := by
  rw [Dialect.octet?] at hread ⊢
  split at hread
  · rename_i hcond
    rw [if_pos ⟨hcond.1, hcond.2.imp_left h.paddedOctets⟩]
    exact hread
  · cases hread

theorem v4? (h : d.Stricter d') {cs : List Char} {bits : BitVec 32}
    (hread : d.v4? cs = some bits) : d'.v4? cs = some bits := by
  rw [Dialect.v4?] at hread
  split at hread
  · rename_i a b c e hoctets
    rw [Dialect.v4?, mapM_eq_some_of_imp (fun _ _ => h.octet?) hoctets]
    exact hread
  · cases hread

theorem groups? (h : d.Stricter d') {pieces : List (List Char)} {gs : List Nat}
    (hread : d.groups? pieces = some gs) : d'.groups? pieces = some gs := by
  induction pieces generalizing gs with
  | nil => exact hread
  | cons p ps ih =>
    rcases ps with - | ⟨q, ps⟩
    · -- the last piece: a group in both dialects, or else an address in the tail
      rw [Dialect.groups?] at hread ⊢
      rcases hp : group? p with - | g
      · rw [hp] at hread
        obtain ⟨bits, hbits, hgs⟩ := Option.map_eq_some_iff.mp hread
        simp [h.v4? hbits, hgs]
      · rw [hp] at hread
        exact hread
    · rw [Dialect.groups?] at hread ⊢
      obtain ⟨g, hg, hread⟩ := Option.bind_eq_some_iff.mp hread
      obtain ⟨gs', hgs', hread⟩ := Option.bind_eq_some_iff.mp hread
      rw [hg, ih hgs']
      exact hread

theorem eightGroups? (h : d.Stricter d') {cs : List Char} {gs : List Nat}
    (hread : d.eightGroups? cs = some gs) : d'.eightGroups? cs = some gs := by
  rw [Dialect.eightGroups?] at hread ⊢
  rcases hcut : cutFirst? [':', ':'] cs with - | ⟨front, back⟩
  · simp only [hcut] at hread ⊢
    obtain ⟨hgs, hlen⟩ := Option.filter_eq_some_iff.mp hread
    rw [h.groups? hgs]
    exact Option.filter_eq_some_iff.mpr ⟨rfl, hlen⟩
  · simp only [hcut] at hread ⊢
    obtain ⟨head, hhead, hread⟩ := Option.bind_eq_some_iff.mp hread
    obtain ⟨tail, htail, hread⟩ := Option.bind_eq_some_iff.mp hread
    rw [hhead, h.groups? htail]
    split at hread
    · rename_i hfit
      have hleast := h.leastOmitted
      have hfit' : head.length < 8 ∧ head.length + tail.length + d'.leastOmitted ≤ 8 := by omega
      simp only [Option.bind_eq_bind, Option.bind_some, if_pos hfit']
      exact hread
    · cases hread

theorem v6? (h : d.Stricter d') {cs : List Char} {bits : BitVec 128}
    (hread : d.v6? cs = some bits) : d'.v6? cs = some bits := by
  rw [Dialect.v6?] at hread ⊢
  obtain ⟨gs, hgs, hbits⟩ := Option.map_eq_some_iff.mp hread
  rw [h.eightGroups? hgs, Option.map_some, hbits]

end Stricter

/-- Of the pieces only the last can make two groups. -/
theorem length_le_of_groups? (d : Dialect) {pieces : List (List Char)} {gs : List Nat}
    (h : d.groups? pieces = some gs) : gs.length ≤ pieces.length + 1 := by
  induction pieces generalizing gs with
  | nil =>
    obtain rfl := Option.some.inj h
    simp
  | cons p ps ih =>
    rcases ps with - | ⟨q, ps⟩
    · rw [groups?] at h
      rcases hp : group? p with - | g
      · rw [hp] at h
        obtain ⟨low, -, rfl⟩ := Option.map_eq_some_iff.mp h
        simp
      · rw [hp] at h
        obtain rfl := Option.some.inj h
        simp
    · rw [groups?] at h
      obtain ⟨g, -, h⟩ := Option.bind_eq_some_iff.mp h
      obtain ⟨gs', hgs', h⟩ := Option.bind_eq_some_iff.mp h
      obtain rfl := Option.some.inj h
      have := ih hgs'
      simp only [List.length_cons] at this ⊢
      omega

/-- Every text that is read as IPv6 has two colons at least: it is cut between
two of them, or into pieces of which only the last makes two groups. -/
theorem two_le_count_colon_of_v6? {d : Dialect} {cs : List Char} {bits : BitVec 128}
    (h : d.v6? cs = some bits) : 2 ≤ cs.count ':' := by
  obtain ⟨gs, hgs, -⟩ := Option.map_eq_some_iff.mp h
  rw [eightGroups?] at hgs
  rcases hcut : cutFirst? [':', ':'] cs with - | ⟨front, back⟩
  · simp only [hcut] at hgs
    obtain ⟨hgroups, hlen⟩ := Option.filter_eq_some_iff.mp hgs
    have hpieces := d.length_le_of_groups? hgroups
    rw [length_splitOn] at hpieces
    simp only [decide_eq_true_eq] at hlen
    omega
  · rw [eq_of_cutFirst? hcut]
    simp only [List.count_append, List.count_cons_self, List.count_nil]
    omega

/-- Every text that is read as IPv6 has a colon. -/
theorem colon_mem_of_v6? {d : Dialect} {cs : List Char} {bits : BitVec 128}
    (h : d.v6? cs = some bits) : ':' ∈ cs := by
  have htwo := two_le_count_colon_of_v6? h
  exact List.count_pos_iff.mp (by omega)

/-- What is read as an IPv6 address is not read as IPv4 before. -/
theorem v6?_of_ip? {d : Dialect} {cs : List Char} {bits : BitVec 128}
    (h : d.ip? cs = some (.v6 bits)) : d.v6? cs = some bits := by
  rw [ip?] at h
  rcases hv4 : d.v4? cs with - | low
  · rw [hv4] at h
    obtain ⟨bits', hv6, hbits⟩ := Option.map_eq_some_iff.mp h
    rw [hv6, Ip.v6.inj hbits]
  · rw [hv4] at h
    cases h

/-- A laxer dialect reads a text as the same address. -/
theorem ip?_of_stricter {d d' : Dialect} (h : d.Stricter d') {cs : List Char} {ip : Ip}
    (hread : d.ip? cs = some ip) : d'.ip? cs = some ip := by
  rw [ip?] at hread ⊢
  rcases hv4 : d.v4? cs with - | bits
  · rw [hv4] at hread
    obtain ⟨bits, hv6, rfl⟩ := Option.map_eq_some_iff.mp hread
    rw [d'.v4?_eq_none (colon_mem_of_v6? hv6), h.v6? hv6]
    rfl
  · rw [hv4] at hread
    rw [h.v4? hv4]
    exact hread

/-! ### What no dialect reads -/

section
variable (d : Dialect) {cs : List Char} {c : Char}

theorem v4?_eq_none_of_mem (hmem : c ∈ cs) (hdigit : digitIn? 16 c = none) (hdot : c ≠ '.') :
    d.v4? cs = none := by
  obtain ⟨p, hp, hc⟩ := exists_mem_splitOn '.' hmem hdot
  rw [v4?, mapM_eq_none_of_mem hp (d.octet?_eq_none hc (digitIn?_ten_eq_none hdigit))]

theorem groups?_eq_none {pieces : List (List Char)} {p : List Char} (hp : p ∈ pieces)
    (hmem : c ∈ p) (hdigit : digitIn? 16 c = none) (hdot : c ≠ '.') :
    d.groups? pieces = none := by
  induction pieces with
  | nil => cases hp
  | cons q qs ih =>
    rcases qs with - | ⟨q', qs⟩
    · obtain rfl := List.mem_singleton.mp hp
      rw [groups?, group?_eq_none hmem hdigit]
      simp [d.v4?_eq_none_of_mem hmem hdigit hdot]
    · rw [groups?]
      rcases List.mem_cons.mp hp with rfl | hp
      · rw [group?_eq_none hmem hdigit]
        rfl
      · rw [ih hp]
        rcases group? q with - | g <;> rfl

theorem exists_mem_pieces (hmem : c ∈ cs) (hcolon : c ≠ ':') : ∃ p ∈ pieces cs, c ∈ p := by
  rw [pieces, if_neg (List.ne_nil_of_mem hmem)]
  exact exists_mem_splitOn ':' hmem hcolon

theorem eightGroups?_eq_none (hmem : c ∈ cs) (hdigit : digitIn? 16 c = none) (hcolon : c ≠ ':')
    (hdot : c ≠ '.') : d.eightGroups? cs = none := by
  rw [eightGroups?]
  rcases hcut : cutFirst? [':', ':'] cs with - | ⟨front, back⟩
  · obtain ⟨p, hp, hc⟩ := exists_mem_splitOn ':' hmem hcolon
    simp [d.groups?_eq_none hp hc hdigit hdot]
  · rw [eq_of_cutFirst? hcut] at hmem
    simp only [List.mem_append, List.mem_cons, List.not_mem_nil, or_false, or_self] at hmem
    rcases hmem with (hmem | hmem) | hmem
    · obtain ⟨p, hp, hc⟩ := exists_mem_pieces hmem hcolon
      simp [plainGroups?, mapM_eq_none_of_mem hp (group?_eq_none hc hdigit)]
    · exact absurd hmem hcolon
    · obtain ⟨p, hp, hc⟩ := exists_mem_pieces hmem hcolon
      simp [d.groups?_eq_none hp hc hdigit hdot]

/-- A text with a character that addresses are not made of is no address. -/
theorem ip?_eq_none (hmem : c ∈ cs) (hdigit : digitIn? 16 c = none) (hcolon : c ≠ ':')
    (hdot : c ≠ '.') : d.ip? cs = none := by
  rw [ip?, d.v4?_eq_none_of_mem hmem hdigit hdot, v6?,
    d.eightGroups?_eq_none hmem hdigit hcolon hdot]
  rfl

end

end Dialect
end EgressPolicy
