/-
EgressPolicy/Proofs/Dns/Written.lean

Name servers written as URLs, and read back.

An `Endpoint` is what there is to say about a name server, and `Writes` says
which URLs say it: the port may be left out if it is the usual one.  Schemes
and usual ports are laid down here a second time (`Transport.convention`), so
that what is written does not follow from what is read.

Each URL reads back as its own endpoint (`parse_of_writes`).  For lists, all
that is added is that they are read one by one up to the first text that is
refused (`ofUrls_of_writes`).
-/
import Mathlib
import EgressPolicy.Proofs.Dns.ServerUrl
import EgressPolicy.Proofs.Ip.Written
import EgressPolicy.Proofs.Text.Traversal

namespace EgressPolicy

open Text

/-! ### Endpoints -/

/-- What is to be said about a name server; only `https` has a path, and it
starts with a slash. -/
structure Endpoint where
  transport : Transport
  ip : Ip
  port : UInt16
  path : Option String
  https_of_path : ∀ p ∈ path, transport = .https
  slash_of_path : ∀ p ∈ path, p.toList.head? = some '/'

/-- The scheme of a transport, and the port that is meant where none is written. -/
def Transport.convention : Transport → String × UInt16
  | .udp => ("udp", 53)
  | .tcp => ("tcp", 53)
  | .tls => ("tls", 853)
  | .https => ("https", 443)

theorem Transport.convention_eq (t : Transport) : t.convention = (t.scheme, t.defaultPort) := by
  cases t <;> rfl

/-- An address as the host of a URL. -/
def Ip.host : Ip → String
  | .v4 bits => (Ip.v4 bits).render
  | .v6 bits => "[" ++ (Ip.v6 bits).render ++ "]"

namespace Endpoint

/-- The URLs of an endpoint. -/
inductive Writes (e : Endpoint) : String → Prop
  | withPort :
      Writes e (e.transport.convention.1 ++ "://" ++ e.ip.host ++ ":" ++ toString e.port.toNat
        ++ e.path.getD "")
  | withoutPort (h : e.port = e.transport.convention.2) :
      Writes e (e.transport.convention.1 ++ "://" ++ e.ip.host ++ e.path.getD "")

/-- The server that is meant. -/
def server (e : Endpoint) : Server where
  ip := e.ip
  port := e.port
  transport := e.transport
  name :=
    match e.transport with
    | .udp | .tcp => none
    | .tls | .https => some e.ip.render
  path :=
    match e.transport with
    | .udp | .tcp | .tls => none
    | .https => some (e.path.getD "/dns-query")

end Endpoint

/-! ### Hosts -/

namespace Ip

theorem colon_notMem_dotted (bits : BitVec 32) : ':' ∉ dotted bits := by
  have hdigit : ∀ d < 16, ':' ≠ d.digitChar := by decide
  intro h
  rcases mem_dotted h with h | ⟨d, hd, h⟩
  · cases h
  · exact hdigit d hd h

/-- The text of an address starts with no bracket. -/
theorem head?_chars_ne (ip : Ip) : ip.chars.head? ≠ some '[' := by
  intro h
  exact not_mem_chars (by decide) (by decide) (by decide) (List.mem_of_mem_head? h)

theorem bracket_notMem_chars (ip : Ip) : ']' ∉ ip.chars :=
  not_mem_chars (by decide) (by decide) (by decide)

theorem slash_notMem_host (ip : Ip) : '/' ∉ ip.host.toList := by
  have hchars : '/' ∉ ip.chars := not_mem_chars (by decide) (by decide) (by decide)
  rcases ip with bits | bits <;> simpa [host, render] using hchars

end Ip

namespace ServerUrl

/-- A host alone is an authority with the default port. -/
theorem authority_host (ip : Ip) (default : UInt16) :
    authority default ip.host.toList = .ok (ip.render, default) := by
  refine authority_of_hostPort ?_ ip.chars_ne_nil
  rcases ip with bits | bits
  · rw [Ip.host, Ip.render, String.toList_ofList]
    exact hostPort_bare (Ip.colon_notMem_dotted bits) (Ip.head?_chars_ne _)
  · simp only [Ip.host, Ip.render, String.toList_append, String.toList_ofList]
    exact hostPort_bracketed (Ip.bracket_notMem_chars _)

/-- A host and a written port are an authority with that port. -/
theorem authority_host_port (ip : Ip) (default n : UInt16) :
    authority default (ip.host.toList ++ ':' :: Nat.toDigits 10 n.toNat) = .ok (ip.render, n) := by
  have hport : ':' ∉ Nat.toDigits 10 n.toNat :=
    not_mem_toDigits (by decide) (by decide) _ (by decide)
  refine authority_of_hostPort ?_ ip.chars_ne_nil
  rcases ip with bits | bits
  · rw [Ip.host, Ip.render, String.toList_ofList]
    exact hostPort_bare_port (Ip.colon_notMem_dotted bits) (Ip.head?_chars_ne _) hport
      (port?_toDigits n)
  · simp only [Ip.host, Ip.render, String.toList_append, String.toList_ofList, List.append_assoc]
    exact hostPort_bracketed_port (Ip.bracket_notMem_chars _) (port?_toDigits n)

end ServerUrl

/-! ### URLs -/

namespace Endpoint

/-- A URL reads back if its authority does. -/
theorem parse_of_authority {e : Endpoint} {url : String} {cs : List Char}
    (hurl : url.toList = e.transport.scheme.toList ++
      ("://".toList ++ (cs ++ (e.path.getD "").toList)))
    (hslash : '/' ∉ cs)
    (h : ServerUrl.authority e.transport.defaultPort cs = .ok (e.ip.render, e.port)) :
    ServerUrl.parse url = .ok ⟨e.transport, e.ip.render, e.port, e.server.path⟩ := by
  refine ServerUrl.parse_of_place hurl ?_ h
  obtain ⟨t, ip, port, path, hhttps, hpath⟩ := e
  rcases path with - | p
  · -- without a slash only the path that `https` has by default can come out
    simp only [Option.getD_none, String.toList_empty, List.append_nil]
    rw [ServerUrl.place_of_notMem hslash]
    cases t <;> rfl
  · obtain rfl : t = .https := hhttps p rfl
    obtain ⟨rest, hrest⟩ := List.head?_eq_some_iff.mp (hpath p rfl)
    rw [Option.getD_some, hrest, ServerUrl.place_https_of_notMem hslash, ← hrest,
      String.ofList_toList]
    rfl

/-- Every URL of an endpoint reads back as the endpoint. -/
theorem parse_of_writes {e : Endpoint} {url : String} (h : e.Writes url) :
    ServerUrl.parse url = .ok ⟨e.transport, e.ip.render, e.port, e.server.path⟩ := by
  have hhost := e.ip.slash_notMem_host
  have hport : '/' ∉ Nat.toDigits 10 e.port.toNat :=
    not_mem_toDigits (by decide) (by decide) _ (by decide)
  cases h with
  | withPort =>
    refine parse_of_authority ?_ ?_ (ServerUrl.authority_host_port e.ip _ e.port)
    · simp [Transport.convention_eq]
    · simp [hhost, hport]
  | withoutPort hdefault =>
    refine parse_of_authority ?_ hhost ?_
    · simp [Transport.convention_eq]
    · rw [hdefault, Transport.convention_eq]
      exact ServerUrl.authority_host e.ip _

/-- What such a URL reads as is the server that is meant. -/
theorem ofUrl_of_writes (hosts : Hosts) {e : Endpoint} {url : String} (h : e.Writes url) :
    (ServerUrl.parse url >>= Server.ofUrl hosts) = .ok e.server := by
  rw [parse_of_writes h]
  show Server.ofUrl hosts _ = _
  rw [Server.ofUrl, Server.address, Ip.ofString?_render]
  obtain ⟨t, ip, port, path, -, -⟩ := e
  cases t <;> rfl

end Endpoint

/-! ### Lists -/

namespace Server

/-- The servers of texts, if there are any, are read one by one. -/
theorem ofUrls_eq_mapM (hosts : Hosts) {urls : List String} (h : urls ≠ []) :
    ofUrls urls hosts = urls.mapM fun url => ServerUrl.parse url >>= ofUrl hosts := by
  rw [ofUrls]
  exact h

/-- **Name servers survive being written as URLs.**  The URLs of some endpoints
read as the servers that are meant, one for each endpoint and in their order.
If texts that are refused take the place of any of them, the fault of the first
such text is the fault of the whole list. -/
theorem ofUrls_of_writes (hosts : Hosts) {endpoints : List Endpoint} (hne : endpoints ≠ []) :
    (∀ urls, List.Forall₂ Endpoint.Writes endpoints urls →
      ofUrls urls hosts = .ok (endpoints.map Endpoint.server)) ∧
    ∀ texts, List.Forall₂ (fun e text => e.Writes text ∨ ∃ fault, ServerUrl.parse text = .error fault)
        endpoints texts →
      ∀ before text after fault, texts = before ++ text :: after →
        (∀ t ∈ before, ∃ u, ServerUrl.parse t = .ok u) → ServerUrl.parse text = .error fault →
        ofUrls texts hosts = .error fault := by
  constructor
  · intro urls h
    have hurls : urls ≠ [] := by
      rintro rfl
      exact hne (List.forall₂_nil_right_iff.mp h)
    rw [ofUrls_eq_mapM hosts hurls, mapM_eq_ok_iff, List.forall₂_map_right_iff]
    exact h.flip.imp fun _ _ => Endpoint.ofUrl_of_writes hosts
  · rintro texts h before text after fault rfl hbefore htext
    rw [ofUrls_eq_mapM hosts (by simp), mapM_eq_error_iff]
    refine ⟨before, text, after, rfl, fun t ht => ?_, ?_⟩
    · -- what stands before the first refused text was not replaced
      obtain ⟨e, hwrites | ⟨fault', hfault⟩⟩ :=
        exists_of_forall₂_of_mem h (List.mem_append_left _ ht)
      · exact ⟨e.server, Endpoint.ofUrl_of_writes hosts hwrites⟩
      · obtain ⟨u, hu⟩ := hbefore t ht
        cases hu.symm.trans hfault
    · rw [htext]
      rfl

end Server

/-! ### A sample -/

namespace Sample

/-- An endpoint with the usual port. -/
def plainEndpoint : Endpoint where
  transport := .udp
  ip := .v4 0x08080808#32
  port := 53
  path := none
  https_of_path := by simp
  slash_of_path := by simp

/-- An endpoint whose address and path have the separators of a URL in them. -/
def pathEndpoint : Endpoint where
  transport := .https
  ip := .v6 0xFFFF01020304#128
  port := 8443
  path := some "/a://b]:1/"
  https_of_path := by simp
  slash_of_path := by simp

end Sample

/-- Two servers of different kinds, and what becomes of them when the second is spoiled. -/
theorem Server.ofUrls_of_writes_sample :
    ofUrls ["udp://8.8.8.8", "https://[::ffff:1.2.3.4]:8443/a://b]:1/"]
      = .ok [⟨.v4 0x08080808#32, 53, .udp, none, none⟩,
        ⟨.v6 0xFFFF01020304#128, 8443, .https, some "::ffff:1.2.3.4", some "/a://b]:1/"⟩] ∧
    ofUrls ["udp://8.8.8.8", "udp://::1", "8.8.8.8"] = .error (.bareIpv6 "::1") := by
  have hplain : Sample.plainEndpoint.Writes "udp://8.8.8.8" := .withoutPort rfl
  have hpath : Sample.pathEndpoint.Writes "https://[::ffff:1.2.3.4]:8443/a://b]:1/" := .withPort
  have hbare : ServerUrl.parse "udp://::1" = .error (.bareIpv6 "::1") := by decide +kernel
  have hscheme : ServerUrl.parse "8.8.8.8" = .error (.missingScheme "8.8.8.8") := by decide +kernel
  constructor
  · exact (@ofUrls_of_writes .unknown [Sample.plainEndpoint, Sample.pathEndpoint]
      (by simp)).1 _ (.cons hplain (.cons hpath .nil))
  · refine (@ofUrls_of_writes .unknown
      [Sample.plainEndpoint, Sample.pathEndpoint, Sample.plainEndpoint] (by simp)).2 _
      (.cons (.inl hplain) (.cons (.inr ⟨_, hbare⟩) (.cons (.inr ⟨_, hscheme⟩) .nil)))
      ["udp://8.8.8.8"] _ _ _ rfl ?_ hbare
    simpa using ⟨_, Endpoint.parse_of_writes hplain⟩

end EgressPolicy
