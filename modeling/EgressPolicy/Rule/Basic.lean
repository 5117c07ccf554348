/-
EgressPolicy/Rule/Basic.lean

The vocabulary of a policy: actions, conditions and rules.

A rule says what to do with the destinations that its condition covers.  Its
text is the line that a rule file would hold for it, with a hijacked rule's
target at the end.  The fields of a rule keep whatever they are given; which
of them the reader produces is the business of `Rule.Reader`.
-/
import EgressPolicy.Ip.Printer
import EgressPolicy.Text.Letter

namespace EgressPolicy

/-! ### Actions -/

/-- What to do with a connection. -/
inductive Action where
  /-- Connect to the destination itself. -/
  | direct
  /-- Hand the connection to the proxy. -/
  | proxy
  /-- Refuse the connection. -/
  | block
  /-- Connect to `target` instead. -/
  | hijack (target : String)
deriving DecidableEq

/-- What comes with the name of an action in structured data. -/
inductive Payload where
  /-- Nothing. -/
  | unit
  /-- A text. -/
  | text (s : String)
  /-- Data of another kind. -/
  | other

namespace Action

/-- The word for the action. -/
def keyword : Action → String
  | direct => "direct"
  | proxy => "proxy"
  | block => "block"
  | hijack _ => "hijack"

/-- The target of a hijacked connection, and nothing for the other actions. -/
def target : Action → String
  | hijack target => target
  | _ => ""

/-- The action with its target. -/
def render : Action → String
  | hijack target => "hijack " ++ target
  | a => a.keyword

/-- The action of a name, spelled in small letters, and what comes with it. -/
def ofTag? : String → Payload → Option Action
  | "direct", .unit => some direct
  | "proxy", .unit => some proxy
  | "block", .unit => some block
  | "hijack", .text target => some (hijack target)
  | _, _ => none

end Action

/-! ### Conditions -/

/-- Which destinations a rule is about. -/
inductive Condition where
  /-- One host name. -/
  | domain (name : String)
  /-- A host name and the names below it. -/
  | domainSuffix (suffix : String)
  /-- The addresses of a network. -/
  | cidr (network : Network)
  /-- The addresses that a country database gives to a country. -/
  | country (code : String)
  /-- Everything. -/
  | all
deriving DecidableEq

namespace Condition

/-- The word for the kind of condition. -/
def keyword : Condition → String
  | domain _ => "domain"
  | domainSuffix _ => "domain-suffix"
  | cidr _ => "cidr"
  | country _ => "country"
  | all => "all"

/-- The value of the condition, and nothing for `all`. -/
def value : Condition → String
  | domain name => name
  | domainSuffix suffix => suffix
  | cidr network => network.render
  | country code => code
  | all => ""

/-- The words that a rule line has for the condition. -/
def render : Condition → String
  | all => "all"
  | c => c.keyword ++ " " ++ c.value

end Condition

/-! ### Rules -/

/-- An action for the destinations that a condition covers. -/
structure Rule where
  action : Action
  condition : Condition
deriving DecidableEq

namespace Rule

/-- The line that a rule file has for the rule. -/
def render (r : Rule) : String :=
  match r.action with
  | .hijack target => "hijack " ++ r.condition.render ++ " " ++ target
  | a => a.keyword ++ " " ++ r.condition.render

/-- The country that the rule asks a database about. -/
def country? (r : Rule) : Option String :=
  match r.condition with
  | .country code => some code
  | _ => none

end Rule
end EgressPolicy
