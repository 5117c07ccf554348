/-
EgressPolicy/Ip/Zoned.lean

Addresses with a zone, as a destination writes them: `fe80::1%eth0`.

The last `%` that is not the first character separates the zone, so a zone
never holds a `%`.  An empty zone is no zone, and the address is brought to
its canonical form, so an IPv4 address in IPv6 clothing is read as the IPv4
address it stands for.
-/
import EgressPolicy.Ip.Printer
import EgressPolicy.Ip.Reader

namespace EgressPolicy

/-- An address and the zone it belongs to, if one is named. -/
structure ZonedIp where
  ip : Ip
  zone : Option String := none
deriving DecidableEq

namespace ZonedIp

/-- The text of the address, and after a `%` that of the zone. -/
def render (a : ZonedIp) : String :=
  match a.zone with
  | none => a.ip.render
  | some zone => a.ip.render ++ "%" ++ zone

/-- The address part of a destination, and its zone part if it has one. -/
def split (cs : List Char) : List Char × Option (List Char) :=
  match Text.cutLast? '%' cs with
  | some (c :: before, after) => (c :: before, if after = [] then none else some after)
  | _ => (cs, none)

/-- The address that a destination writes, unless it is a host name. -/
def ofString? (s : String) : Option ZonedIp :=
  let (host, zone) := split s.toList
  (Dialect.literal.ip? host).map fun ip => ⟨ip.canonical, zone.map String.ofList⟩

example : (ofString? "fe80::1%eth0").map render = some "fe80::1%eth0" := by decide
example : (ofString? "::ffff:10.0.0.1%").map render = some "10.0.0.1" := by decide
example : ofString? "%1.2.3.4" = none := by decide

end ZonedIp
end EgressPolicy
