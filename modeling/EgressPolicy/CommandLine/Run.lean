/-
EgressPolicy/CommandLine/Run.lean

The work of the program.

Files are read by an action of an arbitrary monad, so that the same
definitions run on a real file system and on one that is kept in memory.
Each command either fails, and then writes nothing, or gives all its lines.
-/
import EgressPolicy.CommandLine.Request
import EgressPolicy.Config.File
import EgressPolicy.Database.Country
import EgressPolicy.Dns.Resolver
import EgressPolicy.Engine.Builder

namespace EgressPolicy.CommandLine

/-- Why the work cannot be done. -/
inductive Failure where
  | config (error : ConfigError)
  | dns (error : DnsError)
  | load (error : LoadError)
deriving DecidableEq

/-- The wording of the failure. -/
def Failure.message : Failure → String
  | config error => error.message
  | dns error => error.message
  | load error => error.message

variable {m : Type → Type} [Monad m]

/-! ### Checking a rule file -/

/-- What there is to say about the rules of a file. -/
def checkLines (path : String) (b : Builder) : List String :=
  [path ++ ": " ++ toString b.rules.length ++ " rules",
   "geoip: " ++ if b.needsDatabase then "required" else "not required"]

/-- Look through a rule file. -/
def check (read : String → m FileContent) (path : String) : m (Except Failure (List String)) := do
  match ({} : Builder).loadFile (← read path) with
  | .error error => return .error (.load error)
  | .ok b => return .ok (checkLines path b)

/-! ### Deciding about destinations -/

/-- The settings of a file with what the command line says, if they are of use. -/
def settings (path : String) (content : FileContent) (overrides : Overrides) :
    Except ConfigError Config :=
  match Config.load path content with
  | .error error => .error error
  | .ok c =>
    match (c.override overrides).validate with
    | .error fault => .error (.invalid fault)
    | .ok () => .ok (c.override overrides)

/-- The database at a path cannot be opened. -/
def unopened (path cause : String) : LoadError :=
  .database ("cannot open " ++ path ++ ": " ++ cause)

/-- The database at a path, when the file there has the content `content`. -/
def databaseAt (path : String) (content : FileContent) : Except LoadError Database :=
  match content with
  | .error fault => .error (unopened path fault.message)
  | .ok bytes => (Database.ofBytes bytes).mapError fun fault => unopened path fault.message

/-- Open the country database at a path. -/
def openDatabase (read : String → m FileContent) :
    Option String → m (Except LoadError Database)
  | none => return .error (.database "country rules require [geoip] path or --geoip")
  | some path => return databaseAt path (← read path)

/-- The engine of some settings. -/
def engineOf (read : String → m FileContent) (c : Config) :
    m (Except LoadError (Engine Database)) := do
  match ({} : Builder).loadFile (← read c.rules) with
  | .error error => return .error error
  | .ok b =>
    ((b.setDefault c.defaultAction).setCapacity c.cacheSize).build (openDatabase read c.database)

/-- The resolver and the engine of a configuration file and the command line. -/
def prepare (read : String → m FileContent) (exchange : Exchange) (path : String)
    (overrides : Overrides) : m (Except Failure (Resolver × Engine Database)) := do
  match settings path (← read path) overrides with
  | .error error => return .error (.config error)
  | .ok c =>
    match Resolver.ofSettings c.dns exchange with
    | .error error => return .error (.dns error)
    | .ok resolver =>
      match ← engineOf read c with
      | .error error => return .error (.load error)
      | .ok engine => return .ok (resolver, engine)

/-- The lines for destinations, one after the other. -/
def decisionLines (world : World Database) (e : Engine Database) (destinations : List String) :
    List String :=
  List.zipWith Decision.line destinations (e.run (destinations.map (world, ·)))

/-- Decide about destinations. -/
def judge (read : String → m FileContent) (exchange : Exchange) (path : String)
    (overrides : Overrides) (destinations : List String) : m (Except Failure (List String)) := do
  match ← prepare read exchange path overrides with
  | .error failure => return .error failure
  | .ok (resolver, engine) =>
    return .ok (decisionLines ⟨resolver.resolve exchange, Database.countryCode⟩ engine destinations)

/-! ### Any request -/

/-- How the program ends: what it writes, and why it fails if it does. -/
inductive Outcome where
  | done (lines : List String)
  | failed (failure : Failure)
  /-- The arguments make no sense. -/
  | misused
deriving DecidableEq

/-- The status that the program ends with. -/
def Outcome.status : Outcome → Nat
  | done _ => 0
  | failed _ => 1
  | misused => 2

/-- How to call the program. -/
def usage : List String :=
  ["Usage: " ++ programName ++ " check --rules FILE",
   "       " ++ programName ++
     " match [--config FILE] [--rules FILE] [--geoip FILE] [--log-level LEVEL] DESTINATION..."]

/-- Do a piece of work. -/
def Command.run (read : String → m FileContent) (exchange : Exchange) :
    Command → m (Except Failure (List String))
  | check rules => CommandLine.check read rules
  | judge config overrides destinations =>
    CommandLine.judge read exchange config overrides destinations

/-- Do what the arguments ask for. -/
def run (read : String → m FileContent) (exchange : Exchange) (args : List String) : m Outcome := do
  match Request.ofArguments args with
  | .version name => return .done [name ++ " " ++ versionNumber]
  | .help => return .done usage
  | .misuse => return .misused
  | .run command =>
    match ← command.run read exchange with
    | .ok lines => return .done lines
    | .error failure => return .failed failure

end EgressPolicy.CommandLine
