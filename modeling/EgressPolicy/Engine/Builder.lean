/-
EgressPolicy/Engine/Builder.lean

Engines made from rules that are collected one by one or file by file.

A file adds all its rules or, if anything is wrong with it, none.  Building
opens a country database when some rule asks about a country, exactly then
and once; the opening is an action of an arbitrary monad, which the builder
runs or does not run.
-/
import EgressPolicy.Engine.Basic
import EgressPolicy.Files.Basic
import EgressPolicy.Rule.File

namespace EgressPolicy

/-- Why there are no rules, or no engine. -/
inductive LoadError where
  /-- A line of the rule file is at fault. -/
  | line (fault : LineError)
  /-- The rule file cannot be read. -/
  | file (fault : FileFault)
  /-- The country database is missing or unusable. -/
  | database (reason : String)
deriving DecidableEq

/-- The wording of the error. -/
def LoadError.message : LoadError → String
  | line fault => fault.message
  | file fault => "io error: " ++ fault.message
  | database reason => "geoip error: " ++ reason

/-- What an engine is to be made of. -/
structure Builder where
  rules : List Rule := []
  defaultAction : Action := .proxy
  capacity : Nat := 1024

namespace Builder

/-- Append a rule. -/
def addRule (b : Builder) (r : Rule) : Builder := { b with rules := b.rules ++ [r] }

/-- Append rules. -/
def addRules (b : Builder) (rules : List Rule) : Builder :=
  { b with rules := b.rules ++ rules }

/-- The rules of a file. -/
def rulesOf (content : FileContent) : Except LoadError (List Rule) :=
  match content.text with
  | .error fault => .error (.file fault)
  | .ok text =>
    match RuleFile.parse text with
    | .error fault => .error (.line fault)
    | .ok rules => .ok rules

/-- Append all rules of a file. -/
def loadFile (b : Builder) (content : FileContent) : Except LoadError Builder :=
  (rulesOf content).map b.addRules

/-- The action where no rule covers. -/
def setDefault (b : Builder) (action : Action) : Builder := { b with defaultAction := action }

/-- How many decisions the engine remembers. -/
def setCapacity (b : Builder) (capacity : Nat) : Builder := { b with capacity }

/-- Some rule asks about a country. -/
def needsDatabase (b : Builder) : Bool := b.rules.any fun r => r.country?.isSome

/-- The engine with a database, or without one. -/
def toEngine {γ : Type} (b : Builder) (database : Option γ) : Engine γ :=
  ⟨b.rules, b.defaultAction, ⟨b.capacity, []⟩, database⟩

/-- Make the engine; the database is opened if a rule needs it. -/
def build {m : Type → Type} [Monad m] {γ : Type} (b : Builder)
    (openDatabase : m (Except LoadError γ)) : m (Except LoadError (Engine γ)) :=
  if b.needsDatabase then do
    match ← openDatabase with
    | .ok database => return .ok (b.toEngine (some database))
    | .error error => return .error error
  else
    return .ok (b.toEngine none)

end Builder

/-- The engine of a rule file, with the default and the room of a fresh builder. -/
def Engine.ofFile {m : Type → Type} [Monad m] {γ : Type} (content : FileContent)
    (openDatabase : m (Except LoadError γ)) : m (Except LoadError (Engine γ)) :=
  match ({} : Builder).loadFile content with
  | .error error => return .error error
  | .ok b => b.build openDatabase

end EgressPolicy
