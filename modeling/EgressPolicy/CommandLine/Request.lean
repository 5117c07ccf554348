/-
EgressPolicy/CommandLine/Request.lean

What the program is asked to do.
-/
import EgressPolicy.CommandLine.Arguments
import EgressPolicy.Config.Basic

namespace EgressPolicy.CommandLine

/-- A piece of work. -/
inductive Command where
  /-- Look through a rule file. -/
  | check (rules : String)
  /-- Decide about destinations, of which there is at least one. -/
  | judge (config : String) (overrides : Overrides) (destinations : List String)
deriving DecidableEq

/-- What the program is asked to do. -/
inductive Request where
  | run (command : Command)
  /-- Say the version, as the program or as one of its commands. -/
  | version (name : String)
  | help
  | misuse
deriving DecidableEq

/-- What the program calls itself. -/
def programName : String := "acl-rs"

/-- The version of the program and of all its commands. -/
def versionNumber : String := "0.3.0"

namespace Request

/-- The request that arguments of a command end in. -/
def ofParsed (name : String) (finish : Parsed → Request) : Except Stop Parsed → Request
  | .ok p => finish p
  | .error .version => version (programName ++ "-" ++ name)
  | .error .help => help
  | .error .misuse => misuse

/-- The options of `check`. -/
def checkOptions : List OptionSpec := [{ name := "rules", letter := some 'r' }]

/-- The options of `match`. -/
def matchOptions : List OptionSpec :=
  [{ name := "config", letter := some 'c' }, { name := "rules" }, { name := "geoip" },
   { name := "log-level", mayBeEmpty := true }]

/-- The request of `check`, which needs a rule file. -/
def ofCheck (p : Parsed) : Request :=
  match p.options.lookup "rules" with
  | some rules => run (.check rules)
  | none => misuse

/-- The request of `match`, which needs a destination. -/
def ofMatch (p : Parsed) : Request :=
  match p.operands with
  | [] => misuse
  | destinations =>
    run (.judge ((p.options.lookup "config").getD "acl.toml")
      ⟨p.options.lookup "rules", p.options.lookup "geoip", p.options.lookup "log-level"⟩
      destinations)

/-- The request that the arguments of the program make. -/
def ofArguments : List String → Request
  | [] => misuse
  | arg :: args =>
    match Argument.ofString arg with
    | .operand "check" => ofParsed "check" ofCheck (parseArguments checkOptions false args {})
    | .operand "match" => ofParsed "match" ofMatch (parseArguments matchOptions true args {})
    | .operand "help" =>
      if args = [] ∨ args ∈ [["check"], ["match"], ["help"]] then help else misuse
    | .long "version" none => version programName
    | .long "help" none => help
    | .short 'V' _ => version programName
    | .short 'h' _ => help
    | _ => misuse

end Request
end EgressPolicy.CommandLine
