/-
EgressPolicy/Rule/Matching.lean

Which destinations a condition covers.

A condition is asked about a host name or about an address.  Conditions on
names know nothing of addresses and the other way round; `all` covers both.
A country condition asks the country reader, and covers nothing when there
is none.
-/
import EgressPolicy.Rule.Basic

namespace EgressPolicy

/-- What a country database answers: the code of an address's country. -/
abbrev CountryReader := Ip → Option String

namespace Condition

/-- `name` is `suffix`, or ends with a dot and `suffix`. -/
def isBelow (suffix name : List Char) : Bool :=
  name == suffix || ('.' :: suffix).isSuffixOf name

/-- The condition covers a host name. -/
def coversName (c : Condition) (name : String) : Bool :=
  match c with
  | all => true
  | domain d => name != "" && Text.sameLetters name d
  | domainSuffix s => name != "" && isBelow s.toList (Text.lower name).toList
  | cidr _ | country _ => false

/-- The condition covers an address. -/
def coversIp (c : Condition) (reader : Option CountryReader) (ip : Ip) : Bool :=
  match c with
  | all => true
  | cidr network => network.contains ip
  | country code =>
    match reader with
    | some read => (read ip).any fun found => Text.sameLetters found code
    | none => false
  | domain _ | domainSuffix _ => false

end Condition
end EgressPolicy
