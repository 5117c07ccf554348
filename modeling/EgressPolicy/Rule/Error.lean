/-
EgressPolicy/Rule/Error.lean

Why a rule line is refused, and the wording of each reason.
-/
namespace EgressPolicy

/-- Why a line is not a rule. -/
inductive RuleError where
  /-- The line has `count` fields, which is fewer than two. -/
  | tooFewFields (count : Nat)
  /-- A `domain` rule has no name. -/
  | emptyDomain
  /-- A `domain-suffix` rule has no suffix, or a lone dot. -/
  | emptySuffix
  /-- A `country` rule has no code. -/
  | emptyCountry
  /-- Fields are left when the rule is complete. -/
  | trailingFields (fields : List String)
  | unknownAction (word : String)
  | unknownCondition (word : String)
  | invalidCidr (text : String)
  | invalidIp (text : String)
  /-- A `hijack` rule ends after its condition. -/
  | missingTarget (condition : String)
deriving DecidableEq

/-- The wording of the reason. -/
def RuleError.message : RuleError → String
  | tooFewFields count => "parse error: expecting at least 2 fields, got " ++ toString count
  | emptyDomain => "parse error: empty domain"
  | emptySuffix => "parse error: empty domain suffix"
  | emptyCountry => "parse error: empty country"
  | trailingFields fields =>
    "parse error: unexpected trailing fields: " ++ " ".intercalate fields
  | unknownAction word => "invalid action: " ++ word
  | unknownCondition word => "invalid condition type: " ++ word
  | invalidCidr text => "invalid CIDR: " ++ text ++ ": invalid IP address syntax"
  | invalidIp text => "invalid IP address: " ++ text
  | missingTarget condition => "no hijack destination for " ++ condition

end EgressPolicy
