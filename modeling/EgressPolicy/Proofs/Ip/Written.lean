/-
EgressPolicy/Proofs/Ip/Written.lean

The text of an address reads back as that address, in every dialect.

An IPv4 text is four octets between dots.  An IPv6 text is groups between
colons, and there are three shapes of it: eight groups; groups on both sides
of the one `::`; and `::ffff:` with a dotted address after it.  Each shape is
cut again where it was joined, because what stands between two separators is
a written number and holds none.  That no IPv6 text is taken for IPv4 is a
matter of its colons alone (`v4?_eq_none`).

Main results: `ip?_chars`, and with it that different addresses have
different texts (`render_injective`); and `mem_chars`, which says what an
address text is made of, and so what it never holds.
-/
import Mathlib
import EgressPolicy.Ip.Zoned
import EgressPolicy.Proofs.Text.Digits
import EgressPolicy.Proofs.Text.Numeral
import EgressPolicy.Proofs.Text.Pieces

namespace EgressPolicy

open Text

namespace Ip

/-! ### Runs of zeros -/

theorem eq_zeros_append_drop (gs : List Nat) :
    gs = List.replicate (zerosAhead gs) 0 ++ gs.drop (zerosAhead gs) := by
  induction gs with
  | nil => rfl
  | cons g gs ih =>
    by_cases hg : g = 0
    · have hz : zerosAhead (g :: gs) = zerosAhead gs + 1 := by simp [zerosAhead, hg]
      rw [hz, List.replicate_succ, List.drop_succ_cons, List.cons_append, ← ih, hg]
    · have hz : zerosAhead (g :: gs) = 0 := by simp [zerosAhead, hg]
      simp [hz]

/-- The longest run is a run: zeros stand there. -/
theorem eq_take_zeros_drop (gs : List Nat) :
    gs = gs.take (longestZeros gs).1 ++ List.replicate (longestZeros gs).2 0
      ++ gs.drop ((longestZeros gs).1 + (longestZeros gs).2) := by
  induction gs with
  | nil => rfl
  | cons g gs ih =>
    rw [longestZeros]
    split
    · simpa using eq_zeros_append_drop (g :: gs)
    · rw [Nat.add_right_comm, List.take_succ_cons, List.drop_succ_cons, List.cons_append,
        List.cons_append, ← ih]

/-! ### Characters -/

/-- Written numbers between separators are cut again where they were joined. -/
theorem splitOn_joined {base : Nat} (h1 : 1 < base) (hb : base ≤ 16) {sep : Char}
    (hs : digitIn? base sep = none) {ns : List Nat} (hns : ns ≠ []) :
    (joined base sep ns).splitOn sep = ns.map (Nat.toDigits base) :=
  List.splitOn_intercalate sep (not_mem_map_toDigits h1 hb hs ns) (by simpa using hns)

theorem joined_eq_nil_iff {base : Nat} {sep : Char} {ns : List Nat} :
    joined base sep ns = [] ↔ ns = [] := by
  rcases ns with - | ⟨n, - | ⟨m, ns⟩⟩
  · simp [joined]
  · simp [joined]
  · simp [joined, List.intercalate_cons_cons]

/-- A colon stands between two groups. -/
theorem colon_mem_joined {base n m : Nat} {ns : List Nat} :
    ':' ∈ joined base ':' (n :: m :: ns) := by
  simp [joined, List.intercalate_cons_cons]

theorem length_octets (bits : BitVec 32) : (octets bits).length = 4 := length_digitList _ _ _

theorem length_groups (bits : BitVec 128) : (groups bits).length = 8 := length_digitList _ _ _

/-- The groups of an address in `::ffff:0:0/96`. -/
theorem groups_of_mapped {bits : BitVec 128} {low : BitVec 32} (h : mapped? bits = some low) :
    groups bits = List.replicate 5 0 ++ 65535 :: digitList 65536 2 low.toNat := by
  -- the address as a number: sixteen ones on top of the low 32 bits
  have hn : bits.toNat = 65535 * 2 ^ 32 + low.toNat := by
    rw [mapped?] at h
    split at h
    · rename_i hhigh
      have hhigh := congrArg BitVec.toNat hhigh
      have hlow := congrArg BitVec.toNat (Option.some.inj h)
      have hlt := bits.isLt
      simp only [BitVec.extractLsb'_toNat, Nat.shiftRight_eq_div_pow] at hhigh hlow
      norm_num at hhigh hlow
      omega
    · cases h
  have hlt := low.isLt
  simp only [groups, digitList, hn]
  simp
  omega

/-- Every IPv6 text has a colon. -/
theorem colon_mem_chars (bits : BitVec 128) : ':' ∈ (v6 bits).chars := by
  rcases e : mapped? bits with - | low
  · obtain ⟨g, gs, hg⟩ := List.exists_of_length_succ _ (length_groups bits)
    obtain ⟨g', gs, rfl⟩ := List.exists_of_length_succ gs (n := 6) (by
      simpa [hg] using length_groups bits)
    simp only [chars, e, compressed]
    split
    · simp
    · rw [hg]
      exact colon_mem_joined
  · simp [chars, e]

/-- The characters of written numbers and what stands between them. -/
theorem mem_joined {base : Nat} (h1 : 1 < base) {sep c : Char} {ns : List Nat}
    (h : c ∈ joined base sep ns) : c = sep ∨ ∃ d < base, c = d.digitChar := by
  rcases mem_of_mem_intercalate h with h | ⟨p, hp, hc⟩
  · exact .inl h
  · obtain ⟨n, -, rfl⟩ := List.mem_map.mp hp
    exact .inr (mem_toDigits h1 hc)

theorem mem_dotted {bits : BitVec 32} {c : Char} (h : c ∈ dotted bits) :
    c = '.' ∨ ∃ d < 16, c = d.digitChar := by
  rcases mem_joined (by decide) h with h | ⟨d, hd, rfl⟩
  · exact .inl h
  · exact .inr ⟨d, by omega, rfl⟩

theorem mem_compressed {gs : List Nat} {c : Char} (h : c ∈ compressed gs) :
    c = ':' ∨ ∃ d < 16, c = d.digitChar := by
  rw [compressed] at h
  split at h
  · simp only [List.mem_append, List.mem_cons, List.not_mem_nil, or_false, or_self] at h
    rcases h with (h | h) | h
    · exact mem_joined (by decide) h
    · exact .inl h
    · exact mem_joined (by decide) h
  · exact mem_joined (by decide) h

/-- An address text holds nothing but colons, dots and hexadecimal digits. -/
theorem mem_chars {ip : Ip} {c : Char} (h : c ∈ ip.chars) :
    c = ':' ∨ c = '.' ∨ ∃ d < 16, c = d.digitChar := by
  rcases ip with bits | bits
  · exact .inr (mem_dotted h)
  · rw [chars] at h
    rcases e : mapped? bits with - | low
    · simp only [e] at h
      rcases mem_compressed h with h | h
      · exact .inl h
      · exact .inr (.inr h)
    · simp only [e, List.mem_append] at h
      rcases h with h | h
      · have hf : c = ':' ∨ c = 'f' := by
          simp at h
          tauto
        rcases hf with rfl | rfl
        · exact .inl rfl
        · exact .inr (.inr ⟨15, by decide, rfl⟩)
      · exact .inr (mem_dotted h)

end Ip

namespace Dialect

variable (d : Dialect)

/-! ### Octets and groups -/

/-- Every dialect reads a written octet. -/
theorem octet?_toDigits {n : Nat} (hn : n < 256) :
    d.octet? (Nat.toDigits 10 n) = some n := by
  have hlen : (Nat.toDigits 10 n).length ≤ 3 := by
    rw [Nat.length_toDigits_le_iff (by decide) (by decide)]
    omega
  have hzero : (Nat.toDigits 10 n).length ≤ 1 ∨ (Nat.toDigits 10 n).head? ≠ some '0' := by
    by_cases h : n = 0
    · simp [h]
    · exact .inr (head?_toDigits (by decide) (by decide) h)
  rw [octet?, if_pos ⟨hlen, .inr hzero⟩, readNat?_toDigits (by decide) (by decide)]
  simp [hn]

/-- A written group reads back. -/
theorem group?_toDigits {n : Nat} (hn : n < 65536) : group? (Nat.toDigits 16 n) = some n := by
  have hlen : (Nat.toDigits 16 n).length ≤ 4 := by
    rw [Nat.length_toDigits_le_iff (by decide) (by decide)]
    omega
  rw [group?, if_pos hlen, readNat?_toDigits (by decide) (by decide)]

/-- A text with another character than digits is no octet. -/
theorem octet?_eq_none {cs : List Char} {c : Char} (hmem : c ∈ cs)
    (hc : digitIn? 10 c = none) : d.octet? cs = none := by
  rw [octet?, readNat?_eq_none hmem hc]
  simp

/-- A text with another character than digits is no group. -/
theorem group?_eq_none {cs : List Char} {c : Char} (hmem : c ∈ cs)
    (hc : digitIn? 16 c = none) : group? cs = none := by
  rw [group?, readNat?_eq_none hmem hc]
  simp

/-! ### IPv4 texts -/

/-- The four octets of a dotted text read back. -/
theorem v4?_dotted (bits : BitVec 32) : d.v4? (Ip.dotted bits) = some bits := by
  have hread : ((Ip.dotted bits).splitOn '.').mapM d.octet? = some (Ip.octets bits) := by
    rw [Ip.dotted, Ip.splitOn_joined (by decide) (by decide) (by decide)
      (List.ne_nil_of_length_pos (by simp [Ip.length_octets]))]
    exact mapM_eq_some_of_forall fun n hn =>
      d.octet?_toDigits (lt_of_mem_digitList (by decide) hn)
  have hval : ofDigitList 256 (Ip.octets bits) = bits.toNat :=
    ofDigitList_digitList_of_lt (by simpa using bits.isLt)
  obtain ⟨a, b, c, e, ho⟩ : ∃ a b c e, Ip.octets bits = [a, b, c, e] :=
    List.length_eq_four.mp (Ip.length_octets bits)
  rw [ho] at hread hval
  simp [v4?, hread, hval]

/-- A text with a colon is not IPv4. -/
theorem v4?_eq_none {cs : List Char} (h : ':' ∈ cs) : d.v4? cs = none := by
  obtain ⟨p, hp, hc⟩ := exists_mem_splitOn '.' h (by decide)
  rw [v4?, mapM_eq_none_of_mem hp (d.octet?_eq_none hc (by decide))]

/-! ### Groups between colons -/

theorem plainGroups?_toDigits {gs : List Nat} (h : ∀ g ∈ gs, g < 65536) :
    plainGroups? (gs.map (Nat.toDigits 16)) = some gs :=
  mapM_eq_some_of_forall fun g hg => group?_toDigits (h g hg)

theorem groups?_toDigits {gs : List Nat} (h : ∀ g ∈ gs, g < 65536) :
    d.groups? (gs.map (Nat.toDigits 16)) = some gs := by
  induction gs with
  | nil => rfl
  | cons g gs ih =>
    have hg := group?_toDigits (h g List.mem_cons_self)
    have ih' := ih fun x hx => h x (List.mem_cons_of_mem _ hx)
    rcases gs with - | ⟨g', gs⟩
    · simp [groups?, hg]
    · rw [List.map_cons] at ih'
      rw [List.map_cons, List.map_cons]
      simp [groups?, hg, ih']

theorem pieces_joined (gs : List Nat) :
    pieces (Ip.joined 16 ':' gs) = gs.map (Nat.toDigits 16) := by
  by_cases hgs : gs = []
  · simp [pieces, hgs, Ip.joined]
  · rw [pieces, if_neg (fun h => hgs (Ip.joined_eq_nil_iff.mp h)),
      Ip.splitOn_joined (by decide) (by decide) (by decide) hgs]

/-! ### IPv6 texts -/

/-- Eight groups written with or without `::` read back.  A run that is
written `::` has at least two zeros, so it is as long as any dialect asks. -/
theorem eightGroups?_compressed (hd : d.leastOmitted ≤ 2) {gs : List Nat}
    (hlen : gs.length = 8) (h : ∀ g ∈ gs, g < 65536) :
    d.eightGroups? (Ip.compressed gs) = some gs := by
  have hne := nil_notMem_map_toDigits 16
  have hsep := not_mem_map_toDigits (c := ':') (by decide : 1 < 16) (by decide) (by decide)
  by_cases hrun : 2 ≤ (Ip.longestZeros gs).2
  · have hgs := Ip.eq_take_zeros_drop gs
    rw [Ip.compressed, if_pos hrun]
    -- from here on it does not matter that no other run is longer
    generalize (Ip.longestZeros gs).1 = i at hgs ⊢
    generalize (Ip.longestZeros gs).2 = n at hgs hrun ⊢
    generalize hhead : gs.take i = head at hgs ⊢
    generalize htail : gs.drop (i + n) = tail at hgs ⊢
    have hheadlt : ∀ g ∈ head, g < 65536 := fun g hg =>
      h g (List.mem_of_mem_take (hhead ▸ hg))
    have htaillt : ∀ g ∈ tail, g < 65536 := fun g hg =>
      h g (List.mem_of_mem_drop (htail ▸ hg))
    have hcount : head.length + n + tail.length = 8 := by
      rw [hgs] at hlen
      simpa [Nat.add_assoc] using hlen
    have hcut : cutFirst? [':', ':'] (Ip.joined 16 ':' head ++ [':', ':'] ++ Ip.joined 16 ':' tail)
        = some (Ip.joined 16 ':' head, Ip.joined 16 ':' tail) := by
      rw [List.append_assoc]
      exact cutFirst?_joined_sep (hne head) (hsep head) _
    rw [eightGroups?, hcut]
    simp only [pieces_joined, plainGroups?_toDigits hheadlt, d.groups?_toDigits htaillt]
    have hfit : head.length < 8 ∧ head.length + tail.length + d.leastOmitted ≤ 8 := by omega
    have hzeros : 8 - (head.length + tail.length) = n := by omega
    simp only [Option.bind_eq_bind, Option.bind_some, if_pos hfit, hzeros]
    exact congrArg some hgs.symm
  · rw [Ip.compressed, if_neg hrun, eightGroups?, Ip.joined, cutFirst?_joined (hne gs) (hsep gs),
      ← Ip.joined, Ip.splitOn_joined (by decide) (by decide) (by decide)
      (List.ne_nil_of_length_pos (by omega))]
    simp [d.groups?_toDigits h, hlen]

/-- The groups of `::ffff:` and a dotted address, whose dots keep it from being
taken for a group. -/
theorem eightGroups?_mapped (hd : d.leastOmitted ≤ 5) (low : BitVec 32) :
    d.eightGroups? ("::ffff:".toList ++ Ip.dotted low)
      = some (List.replicate 5 0 ++ 65535 :: digitList 65536 2 low.toNat) := by
  have hcut : cutFirst? [':', ':'] ("::ffff:".toList ++ Ip.dotted low)
      = some ([], "ffff".toList ++ ':' :: Ip.dotted low) := by
    simp [cutFirst?, dropStart?]
  -- a dotted text with a colon would not be read
  have hcolon : ':' ∉ Ip.dotted low := by
    intro h
    have hnone := d.v4?_eq_none h
    rw [d.v4?_dotted] at hnone
    cases hnone
  have hdot : '.' ∈ Ip.dotted low := by
    obtain ⟨a, b, c, e, ho⟩ := List.length_eq_four.mp (Ip.length_octets low)
    simp [Ip.dotted, Ip.joined, ho, List.intercalate_cons_cons]
  have hpieces : pieces ("ffff".toList ++ ':' :: Ip.dotted low)
      = ["ffff".toList, Ip.dotted low] := by
    rw [pieces, if_neg (by simp), List.splitOn_append_cons_self_of_not_mem (by decide),
      List.splitOn_eq_singleton hcolon]
  have hlast : d.groups? [Ip.dotted low] = some (digitList 65536 2 low.toNat) := by
    simp [groups?, group?_eq_none hdot (by decide), d.v4?_dotted]
  have hffff : group? "ffff".toList = some 65535 := by decide
  have htail : d.groups? ["ffff".toList, Ip.dotted low]
      = some (65535 :: digitList 65536 2 low.toNat) := by
    rw [groups?, hffff, hlast]
    rfl
  rw [eightGroups?, hcut]
  simp only [pieces, if_true, plainGroups?, List.mapM_nil]
  rw [← pieces, hpieces, htail]
  have hfit : 0 + 3 + d.leastOmitted ≤ 8 := by omega
  simp [hfit]

/-- An IPv6 text of any shape reads back. -/
theorem v6?_chars (hd : d.leastOmitted ≤ 2) (bits : BitVec 128) :
    d.v6? (Ip.v6 bits).chars = some bits := by
  have hval : ofDigitList 65536 (Ip.groups bits) = bits.toNat :=
    ofDigitList_digitList_of_lt (by simpa using bits.isLt)
  have hread : d.eightGroups? (Ip.v6 bits).chars = some (Ip.groups bits) := by
    rcases e : Ip.mapped? bits with - | low
    · simp only [Ip.chars, e]
      exact d.eightGroups?_compressed hd (Ip.length_groups bits)
        fun g hg => lt_of_mem_digitList (by decide) hg
    · simp only [Ip.chars, e]
      rw [d.eightGroups?_mapped (by omega), Ip.groups_of_mapped e]
  simp [v6?, hread, hval]

/-- The text of an address reads back as the address, in every dialect that
asks for no longer runs at `::` than are written so. -/
theorem ip?_chars (hd : d.leastOmitted ≤ 2) (ip : Ip) : d.ip? ip.chars = some ip := by
  rcases ip with bits | bits
  · rw [ip?, Ip.chars, d.v4?_dotted]
  · rw [ip?, d.v4?_eq_none (Ip.colon_mem_chars bits), d.v6?_chars hd]
    rfl

end Dialect

/-! ### Addresses alone and in destinations -/

namespace Ip

/-- A character that is no hexadecimal digit, colon or dot is not in an address text. -/
theorem not_mem_chars {ip : Ip} {c : Char} (hd : digitIn? 16 c = none) (hcolon : c ≠ ':')
    (hdot : c ≠ '.') : c ∉ ip.chars := by
  intro h
  rcases mem_chars h with h | h | ⟨d, hlt, rfl⟩
  · exact hcolon h
  · exact hdot h
  · rw [digitIn?_digitChar (by decide) hlt] at hd
    cases hd

theorem chars_ne_nil (ip : Ip) : ip.chars ≠ [] := by
  intro h
  have hread := Dialect.literal.ip?_chars (by decide) ip
  rw [h] at hread
  cases hread

/-- An address text has no blanks. -/
theorem not_blank_of_mem_chars {ip : Ip} {c : Char} (h : c ∈ ip.chars) : isBlank c = false := by
  have hdigit : ∀ d < 16, isBlank d.digitChar = false := by decide
  rcases mem_chars h with rfl | rfl | ⟨d, hlt, rfl⟩
  · decide
  · decide
  · exact hdigit d hlt

@[simp] theorem ofString?_render (ip : Ip) : ofString? ip.render = some ip := by
  rw [ofString?, render, String.toList_ofList, Dialect.literal.ip?_chars (by decide)]

/-- Different addresses have different texts. -/
theorem render_injective : Function.Injective render := by
  intro a b h
  have hread := congrArg ofString? h
  rw [ofString?_render, ofString?_render] at hread
  exact Option.some.inj hread

end Ip

theorem ZonedIp.split_of_percent_notMem {cs : List Char} (h : '%' ∉ cs) :
    split cs = (cs, none) := by
  rw [split, cutLast?_eq_none_iff.mpr h]

/-- The text of an address, given as a destination, is the address it stands for. -/
@[simp] theorem ZonedIp.ofString?_render (ip : Ip) :
    ZonedIp.ofString? ip.render = some ⟨ip.canonical, none⟩ := by
  have hpercent : '%' ∉ ip.chars := Ip.not_mem_chars (by decide) (by decide) (by decide)
  rw [ZonedIp.ofString?, Ip.render, String.toList_ofList, split_of_percent_notMem hpercent]
  simp [Dialect.literal.ip?_chars (by decide)]

end EgressPolicy
