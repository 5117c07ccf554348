/-
EgressPolicy/Dns/Resolver.lean

Host names resolved to one address.

A text that is an address needs no server and is its own answer, just as it
is written.  Nor do the names that are the machine itself, such as `localhost`.
A text that is no host name has no address.  Any other name is asked for IPv4
addresses first, and for IPv6 addresses when there are none.  Talking to servers
is not done here: the `Exchange` says what they answer, and everything below is
a function of it.
-/
import EgressPolicy.Dns.HostName
import EgressPolicy.Dns.Server
import EgressPolicy.Dns.Settings
import EgressPolicy.Engine.Decision

namespace EgressPolicy

/-- The kinds of address record. -/
inductive RecordKind where
  | a
  | aaaa
deriving DecidableEq

/-- All that is heard from outside. -/
structure Exchange where
  /-- What servers answer about a name: addresses in their order, or why there is
  no answer.  Servers that nobody named are the machine's own. -/
  answer : Option (List Server) → RecordKind → HostName → Except String (List Ip)
  /-- What is found out about the hosts of name servers. -/
  hosts : Hosts
  /-- Why the machine's own servers cannot be found out, if they cannot. -/
  systemFault : Option String

/-- The exchange in which no server ever answers. -/
def Exchange.silent : Exchange := ⟨fun _ _ _ => .error "no connections available", .unknown, none⟩

/-- A set of servers, and which of several answers is taken. -/
structure Resolver where
  /-- The servers, or those of the machine. -/
  servers : Option (List Server)
  preferIpv4 : Bool

namespace Resolver

/-- The resolver of the settings. -/
def ofSettings (s : DnsSettings) (exchange : Exchange := .silent) : Except DnsError Resolver :=
  match s.strategy with
  | .system =>
    match exchange.systemFault with
    | none => .ok ⟨none, s.preferIpv4⟩
    | some reason => .error (.invalidServer (.systemServers reason))
  | .custom =>
    match Server.ofUrls s.servers exchange.hosts with
    | .ok servers => .ok ⟨some servers, s.preferIpv4⟩
    | .error fault => .error (.invalidServer fault)

/-- The machine's own address. -/
def ownAddress : Ip := .v4 0x7F000001

/-- All addresses of a host name, or why it cannot be looked up. -/
def addresses (r : Resolver) (exchange : Exchange) (host : String) :
    Except LookupFault (List Ip) :=
  match HostName.ofString? host with
  | none => .error (.noHostName host)
  | some name =>
    if name.isOwn then .ok [ownAddress]
    else
      match exchange.answer r.servers .a name with
      | .ok (ip :: ips) => .ok (ip :: ips)
      | _ => (exchange.answer r.servers .aaaa name).mapError .noAnswer

/-- The address that is taken of several. -/
def choose (r : Resolver) (ips : List Ip) : Option Ip :=
  if r.preferIpv4 then (ips.find? Ip.isV4).or ips.head? else ips.head?

/-- One address of a host. -/
def lookup (r : Resolver) (exchange : Exchange) (host : String) : Except DnsError Ip :=
  match Ip.ofString? host with
  | some ip => .ok ip
  | none =>
    match r.addresses exchange host with
    | .error fault => .error (.lookup fault)
    | .ok ips =>
      match r.choose ips with
      | some ip => .ok ip
      | none => .error (.noResults host)

/-- One address of a host, for the engine. -/
def resolve (r : Resolver) (exchange : Exchange) (host : String) : Except ResolveError Ip :=
  match r.lookup exchange host with
  | .ok ip => .ok ip
  | .error e => .error ⟨host, e.message⟩

/-- The one-line summary of a resolver. -/
def summary (r : Resolver) : String :=
  "DnsResolver \x7b prefer_ipv4: " ++ toString r.preferIpv4 ++ " \x7d"

end Resolver
end EgressPolicy
