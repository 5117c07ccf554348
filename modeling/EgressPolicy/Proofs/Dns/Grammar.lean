/-
EgressPolicy/Proofs/Dns/Grammar.lean

Which texts are the URL of a name server, and of which parts.

The grammar (`ServerUrl.Spells`) puts a URL together from its parts and cuts
nothing.  Its separators may stand in some parts as well: a host in brackets
may have colons, and a path may have anything.  The reader cuts at the first
`://`, the first slash, the first closing bracket and the last colon, and these
are the places where the parts were joined (`texts_of_hostPort`,
`text_of_place`), so it accepts the URLs of the grammar and no others
(`parse_eq_ok_iff_spells`).

A bare host has no colon, so at most one colon stands in an authority without
brackets.  An IPv6 address has two, and so it is never read without brackets.
-/
import Mathlib
import EgressPolicy.Proofs.Dns.Written
import EgressPolicy.Proofs.Ip.Dialect

namespace EgressPolicy

open Text

namespace ServerUrl

/-! ### The grammar -/

/-- Decimal digits, perhaps behind a plus sign, of the number of a port. -/
def WritesPort (n : UInt16) (s : String) : Prop :=
  ∃ digits : List Char, (s.toList = digits ∨ s.toList = '+' :: digits) ∧ digits ≠ [] ∧
    (∀ c ∈ digits, c.isDigit = true) ∧ Nat.ofDigitChars 10 digits 0 = n.toNat

/-- A host as it stands in an authority: in brackets, or bare. -/
inductive HostText (host : String) : String → Prop
  | bracketed (h : ']' ∉ host.toList) : HostText host ("[" ++ host ++ "]")
  | bare (hcolon : ':' ∉ host.toList) (hbracket : host.toList.head? ≠ some '[') :
      HostText host host

/-- What follows the host: nothing for the usual port, or a colon and the port. -/
inductive PortText (usual n : UInt16) : String → Prop
  | omitted (h : n = usual) : PortText usual n ""
  | written {s : String} (h : WritesPort n s) : PortText usual n (":" ++ s)

/-- What follows the authority: nothing or, for `https` alone, the path. -/
inductive PathText : Transport → Option String → String → Prop
  | pathless {t : Transport} (h : t ≠ .https) : PathText t none ""
  | omitted : PathText .https (some "/dns-query") ""
  | written (rest : String) : PathText .https (some ("/" ++ rest)) ("/" ++ rest)

/-- The URLs that consist of the parts `u`. -/
def Spells (u : ServerUrl) (url : String) : Prop :=
  ∃ host port path : String,
    url = u.transport.convention.1 ++ "://" ++ (host ++ port) ++ path ∧
    '/' ∉ (host ++ port).toList ∧ u.host ≠ "" ∧ HostText u.host host ∧
    PortText u.transport.convention.2 u.port port ∧ PathText u.transport u.path path

/-! ### Ports -/

/-- The ports are the numbers below the bound. -/
theorem map_filter_eq_some_iff {m : Option Nat} {n : UInt16} :
    (m.filter (· < 65536)).map UInt16.ofNat = some n ↔ m = some n.toNat := by
  constructor
  · intro h
    obtain ⟨k, hk, rfl⟩ := Option.map_eq_some_iff.mp h
    obtain ⟨rfl, hlt⟩ := Option.filter_eq_some_iff.mp hk
    rw [UInt16.toNat_ofNat_of_lt' (by simpa using hlt)]
  · rintro rfl
    have hlt : n.toNat < 65536 := n.toNat_lt
    simp [hlt]

/-- The texts that are read as a port are those that write it. -/
theorem port?_eq_some_iff {cs : List Char} {n : UInt16} :
    port? cs = some n ↔ WritesPort n (String.ofList cs) := by
  rw [WritesPort, String.toList_ofList]
  by_cases hcs : cs.head? = some '+'
  · obtain ⟨ds, rfl⟩ := List.head?_eq_some_iff.mp hcs
    rw [port?, map_filter_eq_some_iff, readNat?_ten_eq_some_iff]
    constructor
    · rintro ⟨hne, hall, hvalue⟩
      exact ⟨ds, .inr rfl, hne, hall, hvalue⟩
    · rintro ⟨digits, rfl | hdigits, hne, hall, hvalue⟩
      · -- the plus sign is no digit
        exact absurd (hall '+' List.mem_cons_self) (by decide)
      · obtain rfl := (List.cons.inj hdigits).2
        exact ⟨hne, hall, hvalue⟩
  · rw [port?_of_head?_ne hcs, map_filter_eq_some_iff, readNat?_ten_eq_some_iff]
    constructor
    · rintro ⟨hne, hall, hvalue⟩
      exact ⟨cs, .inl rfl, hne, hall, hvalue⟩
    · rintro ⟨digits, rfl | rfl, hne, hall, hvalue⟩
      · exact ⟨hne, hall, hvalue⟩
      · exact absurd rfl hcs

theorem WritesPort.colon_notMem {n : UInt16} {s : String} (h : WritesPort n s) :
    ':' ∉ s.toList := by
  obtain ⟨digits, hdigits, -, hall, -⟩ := h
  have hcolon : ':' ∉ digits := fun hmem => by simpa using hall _ hmem
  rcases hdigits with hdigits | hdigits <;> simp [hdigits, hcolon]

/-! ### Authorities -/

section Authority

variable {whole : String} {usual n : UInt16}

/-- A host with a port that has to be read is found only if the port is. -/
theorem writesPort_of_read {before host port : List Char} {fault : ServerFault}
    (h : ((match port? port with
      | some m => .ok m
      | none => .error fault) : Except ServerFault UInt16).map (before, ·) = .ok (host, n)) :
    before = host ∧ WritesPort n (String.ofList port) := by
  rcases hport : port? port with - | m
  · rw [hport] at h
    cases h
  · rw [hport] at h
    obtain ⟨rfl, rfl⟩ := Prod.mk.inj (Except.ok.inj h)
    exact ⟨rfl, port?_eq_some_iff.mp hport⟩

/-- An authority that is read has a host and perhaps a port. -/
theorem texts_of_hostPort {cs host : List Char} (h : hostPort whole usual cs = .ok (host, n)) :
    ∃ hostText portText : String, cs = (hostText ++ portText).toList ∧
      HostText (String.ofList host) hostText ∧ PortText usual n portText := by
  by_cases hcs : cs.head? = some '['
  · obtain ⟨rest, rfl⟩ := List.head?_eq_some_iff.mp hcs
    rw [hostPort] at h
    rcases hcut : cutFirst? [']'] rest with - | ⟨before, after⟩
    · rw [hcut] at h
      cases h
    · obtain ⟨rfl, hbefore⟩ := cutFirst?_eq_some_iff.mp hcut
      have hbracketed : HostText (String.ofList before) ("[" ++ String.ofList before ++ "]") :=
        .bracketed (by simpa using hbefore)
      rw [hcut] at h
      rcases after with - | ⟨c, port⟩
      · obtain ⟨rfl, rfl⟩ := Prod.mk.inj (Except.ok.inj h)
        exact ⟨_, "", by simp, hbracketed, .omitted rfl⟩
      · by_cases hc : c = ':'
        · subst hc
          obtain ⟨rfl, hport⟩ := writesPort_of_read h
          exact ⟨_, _, by simp, hbracketed, .written hport⟩
        · simp [hc] at h
  · rw [hostPort] at h
    · rcases hcut : cutLast? ':' cs with - | ⟨before, port⟩
      · have hcolon := cutLast?_eq_none_iff.mp hcut
        rw [hcut] at h
        obtain ⟨rfl, rfl⟩ := Prod.mk.inj (Except.ok.inj h)
        exact ⟨String.ofList cs, "", by simp, .bare (by simpa using hcolon) (by simpa using hcs),
          .omitted rfl⟩
      · obtain ⟨rfl, -⟩ := eq_of_cutLast? hcut
        have hbracket : before.head? ≠ some '[' := fun hhead => hcs (by simp [hhead])
        rw [hcut] at h
        by_cases hcolon : ':' ∈ before
        · simp [hcolon] at h
        · simp only [if_neg hcolon] at h
          obtain ⟨rfl, hport⟩ := writesPort_of_read h
          exact ⟨String.ofList before, _, by simp,
            .bare (by simpa using hcolon) (by simpa using hbracket), .written hport⟩
    · -- the reader's other case is that of an opening bracket
      rintro rest rfl
      exact hcs rfl

/-- A host and perhaps a port are read as an authority. -/
theorem hostPort_of_texts {host hostText portText : String} (hhost : HostText host hostText)
    (hport : PortText usual n portText) :
    hostPort whole usual (hostText ++ portText).toList = .ok (host.toList, n) := by
  cases hhost with
  | bracketed h =>
    cases hport with
    | omitted hn =>
      subst hn
      simpa using hostPort_bracketed h
    | @written s hport =>
      have htext : ("[" ++ host ++ "]" ++ (":" ++ s)).toList
          = '[' :: (host.toList ++ ']' :: ':' :: s.toList) := by simp
      rw [htext]
      exact hostPort_bracketed_port h (port?_eq_some_iff.mpr (by rwa [String.ofList_toList]))
  | bare hcolon hbracket =>
    cases hport with
    | omitted hn =>
      subst hn
      simpa using hostPort_bare hcolon hbracket
    | @written s hport =>
      have htext : (host ++ (":" ++ s)).toList = host.toList ++ ':' :: s.toList := by simp
      rw [htext]
      exact hostPort_bare_port hcolon hbracket hport.colon_notMem
        (port?_eq_some_iff.mpr (by rwa [String.ofList_toList]))

theorem hostPort_of_authority {cs : List Char} {host : String}
    (h : authority usual cs = .ok (host, n)) :
    host ≠ "" ∧ hostPort (String.ofList cs) usual cs = .ok (host.toList, n) := by
  obtain ⟨⟨before, m⟩, hread, h⟩ := exists_of_bind_eq_ok h
  by_cases hne : before = []
  · simp [hne] at h
  · simp only [if_neg hne] at h
    obtain ⟨rfl, rfl⟩ := Prod.mk.inj (Except.ok.inj h)
    exact ⟨by simpa using hne, by simpa using hread⟩

/-- An authority without brackets has one colon at most. -/
theorem count_colon_le_one {host portText : String} (hcolon : ':' ∉ host.toList)
    (h : PortText usual n portText) : (host ++ portText).toList.count ':' ≤ 1 := by
  cases h with
  | omitted => simp [List.count_eq_zero.mpr hcolon]
  | written hport =>
    simp [List.count_eq_zero.mpr hcolon, List.count_eq_zero.mpr hport.colon_notMem]

end Authority

/-! ### Paths -/

section Path

variable {t : Transport} {url : String} {cs : List Char} {path : Option String}

/-- The authority is what stands before the first slash. -/
theorem text_of_place {rest : List Char} (h : place t url rest = .ok (cs, path)) :
    ∃ pathText : String, rest = cs ++ pathText.toList ∧ '/' ∉ cs ∧ PathText t path pathText := by
  rcases hcut : cutFirst? ['/'] rest with - | ⟨before, after⟩
  · have hslash := cutFirst?_eq_none_iff.mp hcut
    rw [place_of_notMem hslash] at h
    obtain ⟨rfl, rfl⟩ := Prod.mk.inj (Except.ok.inj h)
    refine ⟨"", by simp, hslash, ?_⟩
    by_cases ht : t = .https
    · subst ht
      exact .omitted
    · rw [if_neg ht]
      exact .pathless ht
  · obtain ⟨rfl, hslash⟩ := cutFirst?_eq_some_iff.mp hcut
    cases t with
    | https =>
      rw [place_https_of_notMem hslash] at h
      obtain ⟨rfl, rfl⟩ := Prod.mk.inj (Except.ok.inj h)
      have hpath : String.ofList ('/' :: after) = "/" ++ String.ofList after :=
        String.toList_inj.mp (by simp)
      refine ⟨"/" ++ String.ofList after, by simp, hslash, ?_⟩
      rw [hpath]
      exact .written _
    | udp | tcp | tls => simp [place, hcut] at h

theorem place_of_text {pathText : String} (hslash : '/' ∉ cs) (h : PathText t path pathText) :
    place t url (cs ++ pathText.toList) = .ok (cs, path) := by
  cases h with
  | pathless ht => rw [String.toList_empty, List.append_nil, place_of_notMem hslash, if_neg ht]
  | omitted =>
    rw [String.toList_empty, List.append_nil, place_of_notMem hslash]
    rfl
  | written rest => simpa using place_https_of_notMem hslash rest.toList

/-- A text without a slash that a URL has behind its scheme is in the authority. -/
theorem PathText.isPrefix_authority {s tail : List Char} {pathText : String}
    (h : PathText t path pathText) (htext : s ++ tail = cs ++ pathText.toList) (hslash : '/' ∉ s) :
    s <+: cs := by
  rcases List.append_eq_append_iff.mp htext with ⟨behind, rfl, -⟩ | ⟨behind, rfl, htail⟩
  · exact List.prefix_append _ _
  · -- what `s` has beyond the authority would start with the slash of the path
    rcases behind with - | ⟨c, behind⟩
    · rw [List.append_nil]
    · cases h with
      | pathless | omitted => cases htail
      | written rest =>
        have hcons : '/' :: rest.toList = c :: (behind ++ tail) := by simpa using htail
        obtain ⟨rfl, -⟩ := List.cons.inj hcons
        exact absurd (by simp) hslash

end Path

/-! ### Whole URLs -/

theorem spells_of_parse {url : String} {u : ServerUrl} (h : parse url = .ok u) : u.Spells url := by
  rw [parse] at h
  rcases hcut : cutFirst? "://".toList url.toList with - | ⟨before, rest⟩
  · rw [hcut] at h
    cases h
  · rw [hcut] at h
    rcases ht : Transport.ofScheme? (String.ofList before) with - | t
    · simp only [ht] at h
      cases h
    · simp only [ht] at h
      obtain ⟨⟨cs, path⟩, hplace, h⟩ := exists_of_bind_eq_ok h
      obtain ⟨⟨host, port⟩, hauthority, h⟩ := exists_of_bind_eq_ok h
      obtain rfl := Except.ok.inj h
      obtain ⟨pathText, rfl, hslash, hpath⟩ := text_of_place hplace
      obtain ⟨hne, hread⟩ := hostPort_of_authority hauthority
      obtain ⟨hostText, portText, rfl, hhost, hport⟩ := texts_of_hostPort hread
      rw [Transport.ofScheme?_eq_some_iff] at ht
      refine ⟨hostText, portText, pathText, ?_, hslash, hne, by simpa using hhost, ?_, hpath⟩
      · apply String.toList_inj.mp
        rw [eq_of_cutFirst? hcut, t.convention_eq, ← ht]
        simp
      · rwa [t.convention_eq]

theorem parse_of_spells {url : String} {u : ServerUrl} (h : u.Spells url) : parse url = .ok u := by
  obtain ⟨hostText, portText, pathText, rfl, hslash, hne, hhost, hport, hpath⟩ := h
  obtain ⟨t, host, n, path⟩ := u
  rw [t.convention_eq] at hport ⊢
  have hauthority := authority_of_hostPort (hostPort_of_texts hhost hport) (by simpa using hne)
  rw [String.ofList_toList] at hauthority
  exact parse_of_place (by simp) (place_of_text hslash hpath) hauthority

/-! ### Bare IPv6 addresses -/

/-- Two URLs with the conventional schemes are the same behind them. -/
theorem behind_scheme_inj {t t' : Transport} {rest rest' : String}
    (h : t.convention.1 ++ "://" ++ rest = t'.convention.1 ++ "://" ++ rest') : rest = rest' := by
  have hcut : ∀ (t : Transport) (rest : String),
      cutFirst? "://".toList (t.convention.1 ++ "://" ++ rest).toList
        = some (t.scheme.toList, rest.toList) := by
    intro t rest
    rw [t.convention_eq, String.toList_append, String.toList_append, List.append_assoc]
    exact cutFirst?_append_sep ['/', '/'] t.colon_notMem_scheme _
  have hboth := hcut t rest
  rw [h, hcut t' rest'] at hboth
  exact String.toList_inj.mp (Prod.mk.inj (Option.some.inj hboth)).2.symm

theorem parse_ne_ok_of_bare_ipv6 {address : String} {bits : BitVec 128}
    (h : Ip.ofString? address = some (.v6 bits)) (t : Transport) (tail : String) (u : ServerUrl) :
    parse (t.convention.1 ++ "://" ++ (address ++ tail)) ≠ .ok u := by
  intro hparse
  obtain ⟨hostText, portText, pathText, hurl, -, -, hhost, hport, hpath⟩ := spells_of_parse hparse
  have hrest : address.toList ++ tail.toList
      = (hostText ++ portText).toList ++ pathText.toList := by
    rw [← String.toList_append, ← String.toList_append,
      behind_scheme_inj (hurl.trans String.append_assoc)]
  -- an address has neither a slash nor a bracket
  have hmem : ∀ c, digitIn? 16 c = none → c ≠ ':' → c ≠ '.' → c ∉ address.toList := by
    intro c hdigit hcolon hdot hmem
    rw [Ip.ofString?, Dialect.literal.ip?_eq_none hmem hdigit hcolon hdot] at h
    cases h
  have hprefix := hpath.isPrefix_authority hrest (hmem '/' (by decide) (by decide) (by decide))
  have htwo : 2 ≤ address.toList.count ':' :=
    Dialect.two_le_count_colon_of_v6? (Dialect.v6?_of_ip? h)
  cases hhost with
  | bracketed =>
    rcases hchars : address.toList with - | ⟨c, cs⟩
    · rw [hchars] at htwo
      simp at htwo
    · have htext : ("[" ++ u.host ++ "]" ++ portText).toList
          = '[' :: (u.host.toList ++ ']' :: portText.toList) := by simp
      rw [hchars, htext] at hprefix
      obtain ⟨rfl, -⟩ := List.cons_prefix_cons.mp hprefix
      exact hmem '[' (by decide) (by decide) (by decide) (by simp [hchars])
  | bare hcolon =>
    have hone := count_colon_le_one hcolon hport
    have hle := hprefix.sublist.count_le ':'
    omega

/-- **The URLs of name servers are those of the grammar**, and they are read as
the parts that they consist of.  No IPv6 address is read without brackets,
whatever follows it. -/
theorem parse_eq_ok_iff_spells :
    (∀ url u, parse url = .ok u ↔ u.Spells url) ∧
    ∀ address bits, Ip.ofString? address = some (.v6 bits) →
      ∀ (t : Transport) (tail : String) (u : ServerUrl),
        parse (t.convention.1 ++ "://" ++ (address ++ tail)) ≠ .ok u :=
  ⟨fun _ _ => ⟨spells_of_parse, parse_of_spells⟩, fun _ _ => parse_ne_ok_of_bare_ipv6⟩

/-- Separators of all kinds in a host and a path, a port with a sign and a zero
in front, and what is left of it without brackets. -/
theorem parse_eq_ok_iff_spells_sample :
    Spells ⟨.https, "a[::1", 443, some "/b]:2/://"⟩ "https://[a[::1]:+0443/b]:2/://" ∧
    Ip.ofString? "::1" = some (.v6 1#128) ∧ ∀ u, parse "udp://::1:53" ≠ .ok u := by
  have haddress : Ip.ofString? "::1" = some (.v6 1#128) := by decide +kernel
  refine ⟨(parse_eq_ok_iff_spells.1 _ _).mp (by decide +kernel), haddress, ?_⟩
  exact parse_eq_ok_iff_spells.2 _ _ haddress .udp ":53"

end ServerUrl
end EgressPolicy
