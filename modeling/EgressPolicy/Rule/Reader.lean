/-
EgressPolicy/Rule/Reader.lean

Rules read from lines.

A line is its blank-separated fields: an action, a kind of condition, the
condition's value (which `all` does not have) and, for `hijack` alone, a
target.  Keywords are read without regard to case.  The condition is judged
first, then the action, then what is left over; so of two faults in one line
the earlier of this list is reported.

Values are stored in a normal form.  Names and suffixes are lowered, a suffix
loses one leading dot, country codes are raised, networks have the bits that
do not count cleared, and a single address becomes the network that holds it
alone, in its canonical form.
-/
import EgressPolicy.Ip.Reader
import EgressPolicy.Rule.Basic
import EgressPolicy.Rule.Error
import EgressPolicy.Text.Blank

namespace EgressPolicy

/-! ### Keywords -/

/-- The kinds of condition that a line can name. -/
inductive Kind where
  | domain
  | domainSuffix
  | cidr
  | ip
  | country
  | all
deriving DecidableEq

/-- The word for a kind of condition. -/
def Kind.word : Kind → String
  | domain => "domain"
  | domainSuffix => "domain-suffix"
  | cidr => "cidr"
  | ip => "ip"
  | country => "country"
  | all => "all"

/-- The kind of condition that a field names. -/
def Kind.ofField? (field : String) : Option Kind :=
  [domain, domainSuffix, cidr, ip, country, all].find? fun k => Text.sameLetters field k.word

/-- The actions that a line can name. -/
inductive Verb where
  | direct
  | proxy
  | block
  | hijack
deriving DecidableEq

/-- The word for an action. -/
def Verb.word : Verb → String
  | direct => "direct"
  | proxy => "proxy"
  | block => "block"
  | hijack => "hijack"

/-- The action that a field names. -/
def Verb.ofField? (field : String) : Option Verb :=
  [direct, proxy, block, hijack].find? fun v => Text.sameLetters field v.word

/-! ### Conditions -/

/-- A suffix without the one dot that may stand in front of it. -/
def withoutDot (s : String) : String :=
  match s.toList with
  | '.' :: cs => String.ofList cs
  | _ => s

/-- The condition of a kind with a value. -/
def Kind.condition (value : String) : Kind → Except RuleError Condition
  | domain => if value = "" then .error .emptyDomain else .ok (.domain (Text.lower value))
  | domainSuffix =>
    if withoutDot value = "" then .error .emptySuffix
    else .ok (.domainSuffix (Text.lower (withoutDot value)))
  | cidr =>
    match Network.ofString? value with
    | some network => .ok (.cidr network.truncate)
    | none => .error (.invalidCidr value)
  | ip =>
    match Ip.ofString? value with
    | some addr => .ok (.cidr (.single addr.canonical))
    | none => .error (.invalidIp value)
  | country => if value = "" then .error .emptyCountry else .ok (.country (Text.upper value))
  | all => .ok .all

/-- The condition that two fields denote. -/
def Condition.read (kind value : String) : Except RuleError Condition :=
  match Kind.ofField? kind with
  | some k => k.condition value
  | none => .error (.unknownCondition kind)

/-! ### Rules -/

/-- The action of a verb, and the fields that it leaves over.  `about` is the
condition's text, for the complaint that a target is missing. -/
def Verb.action (about : String) (rest : List String) :
    Verb → Except RuleError (Action × List String)
  | direct => .ok (.direct, rest)
  | proxy => .ok (.proxy, rest)
  | block => .ok (.block, rest)
  | hijack =>
    match rest with
    | target :: extra => .ok (.hijack target, extra)
    | [] => .error (.missingTarget about)

/-- The action that a line's first field denotes, and the fields left over. -/
def Action.read (verb about : String) (rest : List String) :
    Except RuleError (Action × List String) :=
  match Verb.ofField? verb with
  | some v => v.action about rest
  | none => .error (.unknownAction verb)

namespace Rule

/-- The rule of an action field and a condition's fields, when `rest` follows. -/
def assemble (verb kind value about : String) (rest : List String) : Except RuleError Rule := do
  let condition ← Condition.read kind value
  let (action, extra) ← Action.read verb about rest
  if extra = [] then return ⟨action, condition⟩ else throw (.trailingFields extra)

/-- The rule of a line's fields. -/
def ofFields : List String → Except RuleError Rule
  | verb :: kind :: rest =>
    if Text.sameLetters kind "all" then assemble verb kind "" kind rest
    else
      let value := rest.headD ""
      assemble verb kind value (kind ++ " " ++ value) rest.tail
  | fields => .error (.tooFewFields fields.length)

/-- The rule that a line holds. -/
def parse (line : String) : Except RuleError Rule :=
  ofFields ((Text.fields line.toList).map String.ofList)

end Rule
end EgressPolicy
