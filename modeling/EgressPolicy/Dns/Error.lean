/-
EgressPolicy/Dns/Error.lean

What can be wrong with name servers and lookups, and the wording of it.
-/
namespace EgressPolicy

/-- Why a text does not name a server, or a list of texts no set of servers. -/
inductive ServerFault where
  | missingScheme (url : String)
  | unknownScheme (scheme : String)
  | unexpectedPath (scheme url : String)
  /-- An opening bracket is never closed. -/
  | openBracket (authority : String)
  /-- Something other than a port follows the closing bracket. -/
  | afterBracket (authority : String)
  | invalidPort (authority : String)
  /-- An IPv6 address stands without brackets. -/
  | bareIpv6 (authority : String)
  | emptyHost (authority : String)
  /-- The host is a name, and its addresses could not be found out. -/
  | unresolvedHost (host reason : String)
  /-- The host is a name that has no address. -/
  | noAddresses (host : String)
  | noServers
  /-- The strategy asks for servers and none are named. -/
  | serversRequired
  /-- The machine's own servers could not be found out. -/
  | systemServers (reason : String)
deriving DecidableEq

/-- The wording of the fault. -/
def ServerFault.message : ServerFault → String
  | missingScheme url => "missing scheme: " ++ url
  | unknownScheme scheme => "unsupported protocol: " ++ scheme
  | unexpectedPath scheme url => "unexpected path for " ++ scheme ++ " server: " ++ url
  | openBracket authority => "invalid IPv6 host in: " ++ authority
  | afterBracket authority => "invalid port separator in: " ++ authority
  | invalidPort authority => "invalid port in: " ++ authority
  | bareIpv6 authority => "ipv6 host must be bracketed in server url: " ++ authority
  | emptyHost authority => "empty host in: " ++ authority
  | unresolvedHost host reason =>
    "failed to resolve dns server host '" ++ host ++ "': " ++ reason
  | noAddresses host => "dns server host has no addresses: " ++ host
  | noServers => "no dns servers configured"
  | serversRequired => "custom strategy requires at least one server"
  | systemServers reason => "system config: " ++ reason

/-- Why a host cannot be looked up. -/
inductive LookupFault where
  /-- The text is no host name. -/
  | noHostName (host : String)
  /-- The servers gave no answer, and this is what there is to say about it. -/
  | noAnswer (reason : String)
deriving DecidableEq

/-- The wording of the fault. -/
def LookupFault.message : LookupFault → String
  | noHostName host => "invalid host name: " ++ host
  | noAnswer reason => reason

/-- Why there is no resolver, or no address. -/
inductive DnsError where
  | invalidServer (fault : ServerFault)
  /-- The servers answered without an address. -/
  | noResults (host : String)
  /-- The host could not be looked up. -/
  | lookup (fault : LookupFault)
deriving DecidableEq

/-- The wording of the error. -/
def DnsError.message : DnsError → String
  | invalidServer fault => "invalid dns server: " ++ fault.message
  | noResults host => "dns lookup returned no results for " ++ host
  | lookup fault => "dns lookup failed: " ++ fault.message

end EgressPolicy
