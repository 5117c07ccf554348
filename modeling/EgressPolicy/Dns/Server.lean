/-
EgressPolicy/Dns/Server.lean

Name servers, and the URLs that name them.

A URL is a scheme, `://`, an authority and, for `https` alone, a path that
starts at the first slash.  The authority is a host and perhaps a port.  A
host in brackets ends at the first closing bracket; without brackets it ends
at the last colon and must not hold another one, so that a bare IPv6 address
is refused and not cut in two.
-/
import EgressPolicy.Dns.Error
import EgressPolicy.Ip.Printer
import EgressPolicy.Ip.Reader

namespace EgressPolicy

/-! ### Transports -/

/-- How a name server is spoken to. -/
inductive Transport where
  | udp
  | tcp
  | tls
  | https
deriving DecidableEq

namespace Transport

/-- The scheme of the transport's URLs. -/
def scheme : Transport → String
  | udp => "udp"
  | tcp => "tcp"
  | tls => "tls"
  | https => "https"

/-- The port where none is given. -/
def defaultPort : Transport → UInt16
  | udp | tcp => 53
  | tls => 853
  | https => 443

/-- The transport of a scheme, which is written in small letters. -/
def ofScheme? (s : String) : Option Transport :=
  [udp, tcp, tls, https].find? fun t => t.scheme == s

/-- The transport is encrypted, and the server proves that it has a name. -/
def isNamed : Transport → Bool
  | udp | tcp => false
  | tls | https => true

end Transport

/-! ### URLs -/

/-- The parts of a name server's URL. -/
structure ServerUrl where
  transport : Transport
  host : String
  port : UInt16
  path : Option String
deriving DecidableEq

namespace ServerUrl

/-- The path of an `https` URL that has none. -/
def defaultPath : String := "/dns-query"

/-- A port: decimal digits, perhaps after a plus sign, at most 65535. -/
def port? (cs : List Char) : Option UInt16 :=
  let digits := match cs with
    | '+' :: ds => ds
    | ds => ds
  ((Text.readNat? 10 digits).filter (· < 65536)).map UInt16.ofNat

/-- The host of an authority, and its port or `default`.  The faults quote the
authority, `whole`. -/
def hostPort (whole : String) (default : UInt16) (cs : List Char) :
    Except ServerFault (List Char × UInt16) :=
  let read (port : List Char) : Except ServerFault UInt16 :=
    match port? port with
    | some n => .ok n
    | none => .error (.invalidPort whole)
  match cs with
  | '[' :: rest =>
    match Text.cutFirst? [']'] rest with
    | none => .error (.openBracket whole)
    | some (host, []) => .ok (host, default)
    | some (host, ':' :: port) => (read port).map (host, ·)
    | some (_, _) => .error (.afterBracket whole)
  | cs =>
    match Text.cutLast? ':' cs with
    | none => .ok (cs, default)
    | some (host, port) =>
      if ':' ∈ host then .error (.bareIpv6 whole) else (read port).map (host, ·)

/-- The host and the port of an authority; the host must not be empty. -/
def authority (default : UInt16) (cs : List Char) : Except ServerFault (String × UInt16) := do
  let whole := String.ofList cs
  let (host, port) ← hostPort whole default cs
  if host = [] then throw (.emptyHost whole) else return (String.ofList host, port)

/-- What follows the scheme, cut into the authority and the path. -/
def place (transport : Transport) (url : String) (rest : List Char) :
    Except ServerFault (List Char × Option String) :=
  match Text.cutFirst? ['/'] rest, transport with
  | some (before, after), .https => .ok (before, some (String.ofList ('/' :: after)))
  | some _, t => .error (.unexpectedPath t.scheme url)
  | none, .https => .ok (rest, some defaultPath)
  | none, _ => .ok (rest, none)

/-- The parts of a URL. -/
def parse (url : String) : Except ServerFault ServerUrl :=
  match Text.cutFirst? "://".toList url.toList with
  | none => .error (.missingScheme url)
  | some (before, rest) =>
    match Transport.ofScheme? (String.ofList before) with
    | none => .error (.unknownScheme (String.ofList before))
    | some transport => do
      let (cs, path) ← place transport url rest
      let (host, port) ← authority transport.defaultPort cs
      return ⟨transport, host, port, path⟩

end ServerUrl

/-! ### Servers -/

/-- What the machine finds out about a host that is given by name: its
addresses, or why it finds none. -/
abbrev Hosts := String → Except String (List Ip)

/-- Nothing can be found out about hosts. -/
def Hosts.unknown : Hosts := fun _ => .error "failed to lookup address information"

/-- A name server that can be spoken to. -/
structure Server where
  ip : Ip
  port : UInt16
  transport : Transport
  /-- The name that the server has to prove. -/
  name : Option String
  path : Option String
deriving DecidableEq

namespace Server

/-- The address of a server's host; a host that is given by name has to be known. -/
def address (hosts : Hosts) (host : String) : Except ServerFault Ip :=
  match Ip.ofString? host with
  | some ip => .ok ip
  | none =>
    match hosts host with
    | .error reason => .error (.unresolvedHost host reason)
    | .ok [] => .error (.noAddresses host)
    | .ok (ip :: _) => .ok ip

/-- The server that a URL names. -/
def ofUrl (hosts : Hosts) (u : ServerUrl) : Except ServerFault Server := do
  let ip ← address hosts u.host
  return ⟨ip, u.port, u.transport, if u.transport.isNamed then some u.host else none, u.path⟩

/-- The servers of URL texts, in order; the first fault stands for all. -/
def ofUrls (urls : List String) (hosts : Hosts := .unknown) : Except ServerFault (List Server) :=
  match urls with
  | [] => .error .noServers
  | urls => urls.mapM fun url => do ofUrl hosts (← ServerUrl.parse url)

/-- The server's address and port; IPv6 addresses stand in brackets. -/
def socket (s : Server) : String :=
  match s.ip with
  | .v4 _ => s.ip.render ++ ":" ++ toString s.port.toNat
  | .v6 _ => "[" ++ s.ip.render ++ "]:" ++ toString s.port.toNat

end Server
end EgressPolicy
