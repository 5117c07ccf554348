/-
EgressPolicy/CommandLine/Arguments.lean

Command-line arguments, read from left to right.

An argument that starts with a dash is an option, apart from a single dash.
An option that takes a value has it in the same argument, after an equals
sign or right after its letter, or else in the next argument, which then must
not start with a dash.  After two dashes everything is an operand.  The first
argument that cannot be accepted ends the reading, and so does a request for
the version or for help; what comes first wins.
-/
import EgressPolicy.Text.Split

namespace EgressPolicy.CommandLine

/-! ### Single arguments -/

/-- What an argument looks like. -/
inductive Argument where
  | operand (s : String)
  /-- Two dashes. -/
  | separator
  /-- Two dashes and a name, perhaps with a value. -/
  | long (name : String) (value : Option String)
  /-- A dash and a letter, perhaps with more text. -/
  | short (letter : Char) (rest : List Char)
deriving DecidableEq

/-- What the argument looks like. -/
def Argument.ofString (s : String) : Argument :=
  match s.toList with
  | ['-', '-'] => separator
  | '-' :: '-' :: cs =>
    match Text.cutFirst? ['='] cs with
    | some (name, value) => long (String.ofList name) (some (String.ofList value))
    | none => long (String.ofList cs) none
  | '-' :: c :: cs => short c cs
  | _ => operand s

/-! ### The arguments of a command -/

/-- An option that takes a value. -/
structure OptionSpec where
  name : String
  letter : Option Char := none
  /-- The value may be empty. -/
  mayBeEmpty : Bool := false

/-- Why the reading of arguments ends early. -/
inductive Stop where
  | version
  | help
  /-- The arguments make no sense. -/
  | misuse
deriving DecidableEq

/-- The options and operands that have been read. -/
structure Parsed where
  options : List (String × String) := []
  operands : List String := []
deriving DecidableEq

namespace Parsed

/-- One option more; no option may be repeated. -/
def withOption (p : Parsed) (spec : OptionSpec) (value : String) : Except Stop Parsed :=
  if (p.options.lookup spec.name).isSome ∨ (value = "" ∧ ¬ spec.mayBeEmpty) then .error .misuse
  else .ok { p with options := p.options ++ [(spec.name, value)] }

/-- Operands more; there may be none unless the command takes some. -/
def withOperands (p : Parsed) (takesOperands : Bool) (operands : List String) :
    Except Stop Parsed :=
  if takesOperands ∨ operands = [] then .ok { p with operands := p.operands ++ operands }
  else .error .misuse

end Parsed

/-- Read the arguments of a command. -/
def parseArguments (specs : List OptionSpec) (takesOperands : Bool) :
    List String → Parsed → Except Stop Parsed
  | [], p => .ok p
  | arg :: args, p =>
    let continueWith (spec : Option OptionSpec) (value : String) : Except Stop Parsed :=
      match spec with
      | none => .error .misuse
      | some spec => p.withOption spec value >>= parseArguments specs takesOperands args
    let valueNext (spec : Option OptionSpec) : Except Stop Parsed :=
      match spec, args with
      | some spec, value :: args =>
        match Argument.ofString value with
        | .operand value => p.withOption spec value >>= parseArguments specs takesOperands args
        | _ => .error .misuse
      | _, _ => .error .misuse
    match Argument.ofString arg with
    | .operand s => p.withOperands takesOperands [s] >>= parseArguments specs takesOperands args
    | .separator => p.withOperands takesOperands args
    | .long "version" none => .error .version
    | .long "help" none => .error .help
    | .long name none => valueNext (specs.find? (·.name = name))
    | .long name (some value) => continueWith (specs.find? (·.name = name)) value
    | .short 'V' _ => .error .version
    | .short 'h' _ => .error .help
    | .short letter [] => valueNext (specs.find? (·.letter = some letter))
    | .short letter ('=' :: value) =>
      continueWith (specs.find? (·.letter = some letter)) (String.ofList value)
    | .short letter value =>
      continueWith (specs.find? (·.letter = some letter)) (String.ofList value)

end EgressPolicy.CommandLine
