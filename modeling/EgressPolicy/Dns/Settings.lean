/-
EgressPolicy/Dns/Settings.lean

How host names are to be resolved.
-/
import EgressPolicy.Dns.Error

namespace EgressPolicy

/-- Whose name servers are asked. -/
inductive DnsStrategy where
  /-- The machine's own. -/
  | system
  /-- Those of the settings. -/
  | custom
deriving DecidableEq

/-- The strategy, the servers for `custom`, and how answers are treated. -/
structure DnsSettings where
  strategy : DnsStrategy := .system
  servers : List String := []
  /-- Of several answers take the first IPv4 address, if there is one. -/
  preferIpv4 : Bool := false
  /-- How many answers are kept. -/
  cacheSize : Nat := 256
deriving DecidableEq

/-- A custom strategy has a server. -/
def DnsSettings.validate (s : DnsSettings) : Except DnsError Unit :=
  if s.strategy = .custom ∧ s.servers = [] then .error (.invalidServer .serversRequired)
  else .ok ()

end EgressPolicy
