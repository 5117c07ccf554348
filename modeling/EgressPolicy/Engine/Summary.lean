/-
EgressPolicy/Engine/Summary.lean

The one-line summary of an engine.
-/
import EgressPolicy.Engine.Basic
import EgressPolicy.Text.Quoted

namespace EgressPolicy

/-- An action in a summary: capitalised, a target in quotes. -/
def Action.summary : Action → String
  | direct => "Direct"
  | proxy => "Proxy"
  | block => "Block"
  | hijack target => "Hijack(" ++ Text.quoted target ++ ")"

/-- How many rules the engine has, its default, its room for decisions, and
whether it has a country database. -/
def Engine.summary {γ : Type} (e : Engine γ) : String :=
  "AclEngine \x7b rules: " ++ toString e.rules.length ++
  ", default_action: " ++ e.defaultAction.summary ++
  ", cache_capacity: " ++ toString e.cache.capacity ++
  ", geoip: " ++ toString e.database.isSome ++ " \x7d"

end EgressPolicy
