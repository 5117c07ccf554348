/-
EgressPolicy/Proofs/Ip/Letter.lean

Addresses in capitals and in small letters.

The letters in an address text are hexadecimal digits, and all that is looked
for between them are dots, colons and a slash.  So each reader gives the same
for a text and for the text in small letters, from one octet up to a network;
and texts in the same letters are the same address (`Ip.ofString?_congr`) and
the same network (`Network.ofString?_congr`), or none.
-/
import Mathlib
import EgressPolicy.Ip.Reader
import EgressPolicy.Proofs.Text.Letter

namespace EgressPolicy

open Text

namespace Dialect

variable (d : Dialect)

/-! ### IPv4 -/

theorem octet?_map_toLower (cs : List Char) : d.octet? (cs.map Char.toLower) = d.octet? cs := by
  have hzero : '0'.isAlpha = false := by decide
  simp only [octet?, List.length_map, ne_eq, head?_map_toLower_eq_iff hzero, readNat?_map_toLower]

theorem v4?_map_toLower (cs : List Char) : d.v4? (cs.map Char.toLower) = d.v4? cs := by
  have hoctets : d.octet? ∘ List.map Char.toLower = d.octet? := by
    funext p
    exact d.octet?_map_toLower p
  rw [v4?, v4?, splitOn_map_toLower (by decide), List.mapM_map, hoctets]

/-! ### IPv6 -/

theorem group?_map_toLower (cs : List Char) : group? (cs.map Char.toLower) = group? cs := by
  simp only [group?, List.length_map, readNat?_map_toLower]

theorem plainGroups?_map_toLower (pieces : List (List Char)) :
    plainGroups? (pieces.map (List.map Char.toLower)) = plainGroups? pieces := by
  have hgroups : group? ∘ List.map Char.toLower = group? := by
    funext p
    exact group?_map_toLower p
  rw [plainGroups?, plainGroups?, List.mapM_map, hgroups]

theorem groups?_map_toLower (pieces : List (List Char)) :
    d.groups? (pieces.map (List.map Char.toLower)) = d.groups? pieces := by
  induction pieces with
  | nil => rfl
  | cons p ps ih =>
    rcases ps with - | ⟨q, ps⟩
    · -- the last piece is a group, or else an address of the other family
      simp only [List.map_cons, List.map_nil, groups?, group?_map_toLower, v4?_map_toLower]
    · rw [List.map_cons] at ih
      simp only [List.map_cons, groups?, group?_map_toLower, ih]

theorem pieces_map_toLower (cs : List Char) :
    pieces (cs.map Char.toLower) = (pieces cs).map (List.map Char.toLower) := by
  simp only [pieces, List.map_eq_nil_iff, splitOn_map_toLower (by decide : ':'.isAlpha = false)]
  split <;> rfl

theorem eightGroups?_map_toLower (cs : List Char) :
    d.eightGroups? (cs.map Char.toLower) = d.eightGroups? cs := by
  have hcolon : ':'.isAlpha = false := by decide
  rw [eightGroups?, eightGroups?, cutFirst?_map_toLower (by simp [hcolon])]
  rcases cutFirst? [':', ':'] cs with - | ⟨front, back⟩
  · simp only [Option.map_none, splitOn_map_toLower hcolon, groups?_map_toLower]
  · simp only [Option.map_some, pieces_map_toLower, plainGroups?_map_toLower, groups?_map_toLower]

theorem v6?_map_toLower (cs : List Char) : d.v6? (cs.map Char.toLower) = d.v6? cs := by
  rw [v6?, v6?, eightGroups?_map_toLower]

/-- An address in small letters is the same address. -/
theorem ip?_map_toLower (cs : List Char) : d.ip? (cs.map Char.toLower) = d.ip? cs := by
  rw [ip?, ip?, v4?_map_toLower, v6?_map_toLower]

end Dialect

/-! ### The two kinds of text -/

theorem Ip.ofString?_lower (s : String) : ofString? (lower s) = ofString? s := by
  rw [ofString?, ofString?, toList_lower, Dialect.ip?_map_toLower]

theorem Block.len?_map_toLower (w digits : Nat) (cs : List Char) :
    len? w digits (cs.map Char.toLower) = len? w digits cs := by
  simp only [len?, List.length_map, readNat?_map_toLower]

theorem Network.ofString?_lower (s : String) : ofString? (lower s) = ofString? s := by
  rw [ofString?, ofString?, toList_lower, splitOn_map_toLower (by decide)]
  rcases s.toList.splitOn '/' with - | ⟨addr, - | ⟨len, - | ⟨p, ps⟩⟩⟩
  · rfl
  · rfl
  · simp only [List.map_cons, List.map_nil, Dialect.ip?_map_toLower, Block.len?_map_toLower]
  · rfl

section
variable {s t : String} (h : sameLetters s t = true)
include h

/-- Texts in the same letters are the same address. -/
theorem Ip.ofString?_congr : Ip.ofString? s = Ip.ofString? t := by
  rw [← Ip.ofString?_lower, sameLetters_iff.mp h, Ip.ofString?_lower]

/-- Texts in the same letters are the same network. -/
theorem Network.ofString?_congr : Network.ofString? s = Network.ofString? t := by
  rw [← Network.ofString?_lower, sameLetters_iff.mp h, Network.ofString?_lower]

end
end EgressPolicy
