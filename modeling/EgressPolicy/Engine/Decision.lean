/-
EgressPolicy/Engine/Decision.lean

The answer for one destination, and the line that shows it.
-/
import EgressPolicy.Ip.Zoned
import EgressPolicy.Rule.Basic

namespace EgressPolicy

/-- A host name that could not be resolved, and the resolver's reason. -/
structure ResolveError where
  host : String
  reason : String
deriving DecidableEq

/-- The wording of the failure. -/
def ResolveError.message (e : ResolveError) : String :=
  "failed to resolve " ++ e.host ++ ": " ++ e.reason

/-- What to do with a connection, and what was found out about its destination. -/
structure Decision where
  action : Action
  /-- The destination is a host name. -/
  isDomain : Bool
  /-- The address that the destination is, or that its name was resolved to. -/
  addr : Option ZonedIp
  /-- Why the name could not be resolved. -/
  error : Option ResolveError
deriving DecidableEq

namespace Decision

/-- The words that show a decision, in order; a part that is missing leaves no gap. -/
def words (destination : String) (d : Decision) : List String :=
  [destination, "->", d.action.keyword] ++
  (if d.action.target = "" then [] else [d.action.target]) ++
  [if d.isDomain then "(domain)" else "(ip)"] ++
  (d.addr.map fun a => "addr=" ++ a.render).toList ++
  (d.error.map fun e => "error=" ++ e.message).toList

/-- The line that shows the decision for a destination. -/
def line (destination : String) (d : Decision) : String :=
  " ".intercalate (d.words destination)

end Decision
end EgressPolicy
