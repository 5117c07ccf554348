/-
EgressPolicy/Config/Basic.lean

The settings of the program, and what makes them usable.

Settings come from a document and may be overridden on the command line.
Paths in the document are relative to the directory of the document; paths on
the command line are taken as they are.  Settings are judged last, when the
paths are in place.
-/
import EgressPolicy.Dns.Settings
import EgressPolicy.Files.Basic
import EgressPolicy.Files.Path
import EgressPolicy.Rule.Basic
import EgressPolicy.Toml.Document

namespace EgressPolicy

/-! ### Settings -/

/-- What the program should report about itself. -/
structure LogSettings where
  level : Option String := none
  format : Option String := none
deriving DecidableEq

/-- The settings of the program. -/
structure Config where
  /-- The path of the rule file. -/
  rules : String
  /-- The action where no rule covers. -/
  defaultAction : Action := .proxy
  /-- How many decisions are remembered. -/
  cacheSize : Nat := 1024
  /-- The path of the country database. -/
  database : Option String := none
  dns : DnsSettings := {}
  log : LogSettings := {}
deriving DecidableEq

/-- What the command line has to say about the settings. -/
structure Overrides where
  rules : Option String := none
  database : Option String := none
  logLevel : Option String := none
deriving DecidableEq

/-! ### Errors -/

/-- Why a value gives no settings. -/
inductive ValueFault where
  /-- The value has a form that it cannot have. -/
  | unfit
  /-- A setting of the group is missing, and must be there. -/
  | missing (name : String)
  /-- A setting of the group is at fault. -/
  | within (name : String) (fault : ValueFault)
deriving DecidableEq

/-- The wording of the fault, with the way to the value that has it. -/
def ValueFault.message : ValueFault → String
  | unfit => "invalid value"
  | missing name => "missing field " ++ name
  | within name fault => name ++ ": " ++ fault.message

/-- Why a text gives no settings. -/
inductive DocumentFault where
  /-- The text is not TOML. -/
  | toml (fault : Toml.Fault)
  /-- The document has no settings in it. -/
  | settings (fault : ValueFault)
deriving DecidableEq

/-- The wording of the fault. -/
def DocumentFault.message : DocumentFault → String
  | toml fault => fault.message
  | settings fault => fault.message

/-- Why settings are of no use. -/
inductive ConfigFault where
  | emptyRulesPath
  | noCache
  | unknownLogFormat (format : String)
  | dns (error : DnsError)
deriving DecidableEq

/-- The wording of the fault. -/
def ConfigFault.message : ConfigFault → String
  | emptyRulesPath => "rules path is empty"
  | noCache => "cache_size must be greater than 0"
  | unknownLogFormat format => "unknown logging format: " ++ format
  | dns error => error.message

/-- Why there are no settings. -/
inductive ConfigError where
  /-- The document cannot be read. -/
  | file (fault : FileFault)
  /-- The document is not TOML, or has no settings in it. -/
  | malformed (fault : DocumentFault)
  /-- The settings are of no use. -/
  | invalid (fault : ConfigFault)
deriving DecidableEq

/-- The wording of the error. -/
def ConfigError.message : ConfigError → String
  | file fault => "io: " ++ fault.message
  | malformed fault => "toml: " ++ fault.message
  | invalid fault => "validation: " ++ fault.message

namespace Config

/-! ### Changes -/

/-- The settings with their relative paths as seen from a directory. -/
def rebase (c : Config) (base : Option String) : Config :=
  { c with
    rules := Path.rebase base c.rules
    database := c.database.map (Path.rebase base) }

/-- The settings with what the command line says. -/
def override (c : Config) (o : Overrides) : Config :=
  { c with
    rules := o.rules.getD c.rules
    database := o.database.or c.database
    log := { c.log with level := o.logLevel.or c.log.level } }

@[simp] theorem override_empty (c : Config) : c.override {} = c := rfl

/-! ### Judgement -/

/-- The formats in which the program can report about itself. -/
def logFormats : List String := ["pretty", "compact", "json"]

/-- The settings are of use; the first thing that is wrong with them counts. -/
def validate (c : Config) : Except ConfigFault Unit :=
  if c.rules = "" then .error .emptyRulesPath
  else if c.cacheSize = 0 then .error .noCache
  else
    match c.log.format.filter (· ∉ logFormats) with
    | some format => .error (.unknownLogFormat format)
    | none =>
      match c.dns.validate with
      | .error error => .error (.dns error)
      | .ok () => .ok ()

end Config
end EgressPolicy
