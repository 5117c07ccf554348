/-
EgressPolicy/Config/Decode.lean

Settings from the values of a document.

A group of settings is a table of named settings.  It may also be written as
an array of the settings in a fixed order; whatever stands behind them is
left alone, just like names in a table that mean nothing here.  A date or a
time is a group too, one that settles nothing.  A choice is the name of one of
its cases, or a table whose only name is that of the case and whose value comes
with it.

The first setting at fault fails its group, and what is said about it says where
it stands.
-/
import EgressPolicy.Config.Basic
import EgressPolicy.Toml.Value

namespace EgressPolicy

open Toml

/-! ### Single values -/

namespace Toml.Value

/-- The text that the value is. -/
def text? : Value → Option String
  | string s => some s
  | _ => none

/-- The number from zero up that the value is. -/
def count? : Value → Option Nat
  | integer n => if 0 ≤ n then some n.toNat else none
  | _ => none

/-- The truth value that the value is. -/
def boolean? : Value → Option Bool
  | boolean b => some b
  | _ => none

/-- The texts of an array of texts. -/
def texts? : Value → Option (List String)
  | array items => items.mapM text?
  | _ => none

/-- What a value is when it comes with the name of a case. -/
def payload : Value → Payload
  | table _ [] => .unit
  | array [] => .unit
  | string s => .text s
  | _ => .other

/-- The case that is chosen, and what comes with it. -/
def case? : Value → Option (String × Payload)
  | string name => some (name, .unit)
  | table _ [(name, v)] => some (name, v.payload)
  | _ => none

/-- The settings of a group whose order in an array is `names`. -/
def group? (names : List String) : Value → Option Entries
  | table _ entries => some entries
  | array items => some (names.zip items)
  | tables earlier last => some (names.zip ((earlier ++ [last]).map (table .header)))
  | date => some []
  | _ => none

/-- The value has the form of an array. -/
def isArray : Value → Bool
  | array _ => true
  | tables _ _ => true
  | _ => false

/-- What is made of the value, which has to have a form for it. -/
def fit {α : Type} (decode : Value → Option α) (v : Value) : Except ValueFault α :=
  match decode v with
  | some a => .ok a
  | none => .error .unfit

end Toml.Value

namespace Toml.Entries

/-- A setting that may be missing: then it is `default`. -/
def settingD {α : Type} (es : Entries) (name : String) (decode : Value → Except ValueFault α)
    (default : α) : Except ValueFault α :=
  match es.lookup name with
  | some v => (decode v).mapError (.within name)
  | none => .ok default

/-- A setting that must be there. -/
def setting {α : Type} (es : Entries) (name : String) (decode : Value → Except ValueFault α) :
    Except ValueFault α :=
  match es.lookup name with
  | some v => (decode v).mapError (.within name)
  | none => .error (.missing name)

end Toml.Entries

/-! ### Groups -/

/-- An action: one of its cases, a hijacked one with its target. -/
def Action.ofValue? (v : Value) : Option Action := do
  let (name, payload) ← v.case?
  Action.ofTag? name payload

/-- A strategy: one of its cases. -/
def DnsStrategy.ofValue? (v : Value) : Option DnsStrategy :=
  match v.case? with
  | some ("system", .unit) => some .system
  | some ("custom", .unit) => some .custom
  | _ => none

/-- How host names are resolved; every setting may be missing. -/
def DnsSettings.ofValue (v : Value) : Except ValueFault DnsSettings := do
  let es ← v.fit (Value.group? ["strategy", "servers", "prefer_ipv4", "cache_size"])
  return {
    strategy := ← es.settingD "strategy" (Value.fit DnsStrategy.ofValue?) .system
    servers := ← es.settingD "servers" (Value.fit Value.texts?) []
    preferIpv4 := ← es.settingD "prefer_ipv4" (Value.fit Value.boolean?) false
    cacheSize := ← es.settingD "cache_size" (Value.fit Value.count?) 256 }

/-- What the program reports; in an array, no setting may be missing. -/
def LogSettings.ofValue (v : Value) : Except ValueFault LogSettings := do
  let es ← v.fit (Value.group? ["level", "format"])
  if v.isArray ∧ es.length < 2 then .error .unfit
  else
    return {
      level := ← es.settingD "level" (Value.fit fun v => v.text?.map some) none
      format := ← es.settingD "format" (Value.fit fun v => v.text?.map some) none }

namespace Config

/-- The path of the country database, the only setting of its group. -/
def databaseOf (v : Value) : Except ValueFault String := do
  let es ← v.fit (Value.group? ["path"])
  es.setting "path" (Value.fit Value.text?)

/-- The settings of a document; only the path of the rules must be there. -/
def ofEntries (es : Entries) : Except ValueFault Config := do
  return {
    rules := ← es.setting "rules" (Value.fit Value.text?)
    defaultAction := ← es.settingD "default_action" (Value.fit Action.ofValue?) .proxy
    cacheSize := ← es.settingD "cache_size" (Value.fit Value.count?) 1024
    database := ← es.settingD "geoip" (fun v => (databaseOf v).map some) none
    dns := ← es.settingD "dns" DnsSettings.ofValue {}
    log := ← es.settingD "logging" LogSettings.ofValue {} }

end Config
end EgressPolicy
