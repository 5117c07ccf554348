/-
EgressPolicy/Proofs/Dns/Validation.lean

Which settings are found valid, and which make a resolver.

Validation is to reject settings that cannot work, but all that it asks of a
list of servers is that there is one.  The resolver reads them.  Where no host
has to be looked up, reading fails at nothing but a malformed URL
(`Server.exists_ofUrl_iff`), and so the two verdicts agree exactly if there is
none (`validate_agrees_iff`): each malformed URL passes validation, wherever it
stands, and no resolver is made then.
-/
import Mathlib
import EgressPolicy.Dns.Resolver
import EgressPolicy.Proofs.Dns.Written
import EgressPolicy.Proofs.Text.Traversal

namespace EgressPolicy

open Text

/-! ### Servers -/

/-- The URL is malformed, or it gives its host as an address. -/
def ServerUrl.NamesNoHost (url : String) : Prop :=
  ∀ u, parse url = .ok u → ∃ ip, Ip.ofString? u.host = some ip

namespace ServerUrl

theorem namesNoHost_of_parse {url : String} {u : ServerUrl} {ip : Ip} (h : parse url = .ok u)
    (hip : Ip.ofString? u.host = some ip) : NamesNoHost url := by
  intro u' hu'
  obtain rfl := Except.ok.inj (h.symm.trans hu')
  exact ⟨ip, hip⟩

theorem namesNoHost_of_error {url : String} {fault : ServerFault} (h : parse url = .error fault) :
    NamesNoHost url := by
  intro u hu
  cases h.symm.trans hu

end ServerUrl

namespace Server

variable {hosts : Hosts} {url : String}

/-- Where no host has to be looked up, a URL names a server if it is a URL. -/
theorem exists_ofUrl_iff (h : ServerUrl.NamesNoHost url) :
    (∃ server, (ServerUrl.parse url >>= ofUrl hosts) = .ok server) ↔
      ∃ u, ServerUrl.parse url = .ok u := by
  constructor
  · rintro ⟨server, hserver⟩
    obtain ⟨u, hu, -⟩ := exists_of_bind_eq_ok hserver
    exact ⟨u, hu⟩
  · rintro ⟨u, hu⟩
    obtain ⟨ip, hip⟩ := h u hu
    rw [hu]
    show ∃ server, ofUrl hosts u = .ok server
    rw [ofUrl, address, hip]
    exact ⟨_, rfl⟩

/-- There are servers if there are URLs and all of them are URLs. -/
theorem exists_ofUrls_iff {urls : List String} (h : ∀ url ∈ urls, ServerUrl.NamesNoHost url) :
    (∃ servers, ofUrls urls hosts = .ok servers) ↔
      urls ≠ [] ∧ ∀ url ∈ urls, ∃ u, ServerUrl.parse url = .ok u := by
  by_cases hurls : urls = []
  · subst hurls
    simp [ofUrls]
  · rw [ofUrls_eq_mapM hosts hurls, exists_mapM_eq_ok_iff]
    constructor
    · intro hread
      exact ⟨hurls, fun url hurl => (exists_ofUrl_iff (h url hurl)).mp (hread url hurl)⟩
    · rintro ⟨-, hread⟩ url hurl
      exact (exists_ofUrl_iff (h url hurl)).mpr (hread url hurl)

end Server

/-! ### Settings -/

namespace Resolver

variable {s : DnsSettings}

/-- With servers of one's own there is a resolver if there are servers. -/
theorem exists_ofSettings_iff (hcustom : s.strategy = .custom) (exchange : Exchange) :
    (∃ r, ofSettings s exchange = .ok r) ↔
      ∃ servers, Server.ofUrls s.servers exchange.hosts = .ok servers := by
  rw [ofSettings, hcustom]
  rcases Server.ofUrls s.servers exchange.hosts with fault | servers <;> simp

theorem ofSettings_eq_error (hcustom : s.strategy = .custom) {exchange : Exchange}
    {fault : ServerFault} (h : Server.ofUrls s.servers exchange.hosts = .error fault) :
    ofSettings s exchange = .error (.invalidServer fault) := by
  rw [ofSettings, hcustom]
  simp only [h]

end Resolver

namespace DnsSettings

variable {s : DnsSettings}

/-- All that is asked of servers of one's own is that there is one. -/
theorem validate_eq_ok_iff (hcustom : s.strategy = .custom) :
    s.validate = .ok () ↔ s.servers ≠ [] := by
  rw [validate]
  by_cases hservers : s.servers = [] <;> simp [hcustom, hservers]

/-- **Validation misses malformed URLs and nothing else.**  For servers of one's
own, none of which has to be looked up, a resolver is made of settings that are
valid and have no malformed URL.  So validation agrees with the resolver
exactly if there is no such URL.  With one, wherever it stands, the settings
are valid, and the fault of the first one is the resolver's. -/
theorem validate_agrees_iff (hcustom : s.strategy = .custom)
    (hhosts : ∀ url ∈ s.servers, ServerUrl.NamesNoHost url) (exchange : Exchange) :
    ((∃ r, Resolver.ofSettings s exchange = .ok r) ↔
        s.validate = .ok () ∧ ∀ url ∈ s.servers, ∃ u, ServerUrl.parse url = .ok u) ∧
      ((s.validate = .ok () ↔ ∃ r, Resolver.ofSettings s exchange = .ok r) ↔
        ∀ url ∈ s.servers, ∃ u, ServerUrl.parse url = .ok u) ∧
      ∀ before url after fault, s.servers = before ++ url :: after →
        (∀ b ∈ before, ∃ u, ServerUrl.parse b = .ok u) → ServerUrl.parse url = .error fault →
        s.validate = .ok () ∧ Resolver.ofSettings s exchange = .error (.invalidServer fault) := by
  have hmade : (∃ r, Resolver.ofSettings s exchange = .ok r) ↔
      s.validate = .ok () ∧ ∀ url ∈ s.servers, ∃ u, ServerUrl.parse url = .ok u := by
    rw [Resolver.exists_ofSettings_iff hcustom, Server.exists_ofUrls_iff hhosts,
      validate_eq_ok_iff hcustom]
  refine ⟨hmade, ?_, ?_⟩
  · rw [hmade]
    constructor
    · intro hagree
      by_cases hservers : s.servers = []
      · simp [hservers]
      · exact (hagree.mp ((validate_eq_ok_iff hcustom).mpr hservers)).2
    · intro hread
      exact ⟨fun hvalid => ⟨hvalid, hread⟩, And.left⟩
  · intro before url after fault hservers hbefore hurl
    have hne : s.servers ≠ [] := by simp [hservers]
    refine ⟨(validate_eq_ok_iff hcustom).mpr hne, Resolver.ofSettings_eq_error hcustom ?_⟩
    rw [Server.ofUrls_eq_mapM _ hne, mapM_eq_error_iff]
    refine ⟨before, url, after, hservers, fun b hb => ?_, ?_⟩
    · have hmem : b ∈ s.servers := by simp [hservers, hb]
      exact (Server.exists_ofUrl_iff (hhosts b hmem)).mpr (hbefore b hb)
    · rw [hurl]
      rfl

/-! ### A sample -/

/-- A good URL in front of a malformed one. -/
theorem validate_agrees_iff_sample :
    let s : DnsSettings := { strategy := .custom, servers := ["https://[::1]/q", "udp://8.8.8.8:"] }
    s.validate = .ok () ∧
      Resolver.ofSettings s .silent = .error (.invalidServer (.invalidPort "8.8.8.8:")) := by
  intro s
  have hgood : ServerUrl.parse "https://[::1]/q" = .ok ⟨.https, "::1", 443, some "/q"⟩ := by
    decide +kernel
  have hbad : ServerUrl.parse "udp://8.8.8.8:" = .error (.invalidPort "8.8.8.8:") := by
    decide +kernel
  have hhosts : ∀ url ∈ s.servers, ServerUrl.NamesNoHost url := by
    have haddress : Ip.ofString? "::1" = some (.v6 1#128) := by decide +kernel
    simpa [s] using And.intro (ServerUrl.namesNoHost_of_parse hgood haddress)
      (ServerUrl.namesNoHost_of_error hbad)
  exact (validate_agrees_iff rfl hhosts .silent).2.2 ["https://[::1]/q"] _ [] _ rfl
    (by simpa using ⟨_, hgood⟩) hbad

/-- A text that is no URL at all passes for a server. -/
theorem malformed_server_passes :
    let s : DnsSettings := { strategy := .custom, servers := ["8.8.8.8"] }
    (∀ url ∈ s.servers, ServerUrl.NamesNoHost url) ∧
      ¬ (s.validate = .ok () ↔ ∃ r, Resolver.ofSettings s .silent = .ok r) := by
  intro s
  have hbad : ServerUrl.parse "8.8.8.8" = .error (.missingScheme "8.8.8.8") := by decide +kernel
  refine ⟨by simpa [s] using ServerUrl.namesNoHost_of_error hbad, ?_⟩
  intro hagree
  obtain ⟨r, hr⟩ := hagree.mp rfl
  have hservers : Server.ofUrls s.servers = .error (.missingScheme "8.8.8.8") := by decide +kernel
  cases (Resolver.ofSettings_eq_error rfl hservers).symm.trans hr

end DnsSettings
end EgressPolicy
