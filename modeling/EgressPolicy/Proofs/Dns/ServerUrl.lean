/-
EgressPolicy/Proofs/Dns/ServerUrl.lean

What a URL that was put together from its parts is parsed to.

Each cut is where the parts were joined, because the part in front of it is
free of the separator: no scheme has a colon, no authority a slash, no host in
brackets a closing bracket, and neither a bare host nor a port a colon.
-/
import Mathlib
import EgressPolicy.Dns.Server
import EgressPolicy.Proofs.Text.Cut
import EgressPolicy.Proofs.Text.Numeral

namespace EgressPolicy

open Text

/-! ### Schemes -/

theorem Transport.ofScheme?_scheme (t : Transport) : ofScheme? t.scheme = some t := by
  cases t <;> decide

theorem Transport.ofScheme?_eq_some_iff {s : String} {t : Transport} :
    ofScheme? s = some t ↔ s = t.scheme := by
  constructor
  · intro h
    rw [ofScheme?] at h
    have hscheme := List.find?_some h
    exact (eq_of_beq hscheme).symm
  · rintro rfl
    exact t.ofScheme?_scheme

theorem Transport.colon_notMem_scheme (t : Transport) : ':' ∉ t.scheme.toList := by
  cases t <;> decide

namespace ServerUrl

/-! ### Ports -/

/-- A port without a plus sign is read as it stands. -/
theorem port?_of_head?_ne {cs : List Char} (h : cs.head? ≠ some '+') :
    port? cs = ((readNat? 10 cs).filter (· < 65536)).map UInt16.ofNat := by
  rw [port?]
  -- the reader's other case is that of a plus sign
  rintro ds rfl
  exact h rfl

/-- A written port reads back. -/
theorem port?_toDigits (n : UInt16) : port? (Nat.toDigits 10 n.toNat) = some n := by
  have hplus : (Nat.toDigits 10 n.toNat).head? ≠ some '+' := by
    intro h
    exact not_mem_toDigits (by decide) (by decide) n.toNat (by decide) (List.mem_of_mem_head? h)
  have hlt : n.toNat < 65536 := n.toNat_lt
  rw [port?_of_head?_ne hplus, readNat?_toDigits (by decide) (by decide)]
  simp [hlt]

/-! ### Authorities -/

section Authority

variable {whole : String} {default n : UInt16} {host port : List Char}

theorem hostPort_bracketed (h : ']' ∉ host) :
    hostPort whole default ('[' :: (host ++ [']'])) = .ok (host, default) := by
  rw [hostPort, cutFirst?_append_cons h]

theorem hostPort_bracketed_port (h : ']' ∉ host) (hport : port? port = some n) :
    hostPort whole default ('[' :: (host ++ ']' :: ':' :: port)) = .ok (host, n) := by
  simp only [hostPort, cutFirst?_append_cons h, hport]
  rfl

theorem hostPort_bare (hcolon : ':' ∉ host) (hbracket : host.head? ≠ some '[') :
    hostPort whole default host = .ok (host, default) := by
  rw [hostPort, cutLast?_eq_none_iff.mpr hcolon]
  -- the reader's other case is that of an opening bracket
  rintro rest rfl
  exact hbracket rfl

theorem hostPort_bare_port (hcolon : ':' ∉ host) (hbracket : host.head? ≠ some '[')
    (hsep : ':' ∉ port) (hport : port? port = some n) :
    hostPort whole default (host ++ ':' :: port) = .ok (host, n) := by
  rw [hostPort, cutLast?_append_sep host hsep]
  · simp only [if_neg hcolon, hport]
    rfl
  · rintro rest hsplit
    rcases host with - | ⟨c, host⟩
    · cases hsplit
    · obtain ⟨rfl, -⟩ := List.cons.inj hsplit
      exact hbracket rfl

theorem authority_of_hostPort {cs : List Char}
    (h : hostPort (String.ofList cs) default cs = .ok (host, n)) (hne : host ≠ []) :
    authority default cs = .ok (String.ofList host, n) := by
  rw [authority, h]
  exact if_neg hne

end Authority

/-! ### Whole URLs -/

section Place

variable {t : Transport} {url : String} {cs : List Char}

/-- Without a slash there is no path but the default one. -/
theorem place_of_notMem (h : '/' ∉ cs) :
    place t url cs = .ok (cs, if t = .https then some defaultPath else none) := by
  have hcut := cutFirst?_eq_none_of_notMem [] h
  cases t <;> simp [place, hcut]

/-- From the first slash on there is a path, which only `https` has. -/
theorem place_https_of_notMem (h : '/' ∉ cs) (rest : List Char) :
    place .https url (cs ++ '/' :: rest) = .ok (cs, some (String.ofList ('/' :: rest))) := by
  simp only [place, cutFirst?_append_cons h]

/-- The parts of a URL that is made of a scheme and what follows it. -/
theorem parse_of_place {rest : List Char} {host : String} {n : UInt16} {path : Option String}
    (hurl : url.toList = t.scheme.toList ++ ("://".toList ++ rest))
    (hplace : place t url rest = .ok (cs, path))
    (hauthority : authority t.defaultPort cs = .ok (host, n)) :
    parse url = .ok ⟨t, host, n, path⟩ := by
  have hcut : cutFirst? "://".toList url.toList = some (t.scheme.toList, rest) := by
    rw [hurl]
    exact cutFirst?_append_sep ['/', '/'] t.colon_notMem_scheme rest
  rw [parse, hcut]
  simp only [String.ofList_toList, t.ofScheme?_scheme, hplace]
  show authority t.defaultPort cs >>= _ = _
  rw [hauthority]
  rfl

end Place

end ServerUrl
end EgressPolicy
