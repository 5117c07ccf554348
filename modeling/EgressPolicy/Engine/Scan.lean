/-
EgressPolicy/Engine/Scan.lean

The search for the first rule that covers a destination, and what it asks.

A rule is tried with the host name first and with the address after that.
Only a country condition that is tried with an address puts a question to
the country reader, so the questions of a search are those of the rules up
to the one that is found.  `scan_fst` says that the search finds the first
rule that covers the destination, whatever is asked on the way.
-/
import EgressPolicy.Rule.Matching

namespace EgressPolicy

/-- A destination as rules see it: its name, its address, or both. -/
structure Subject where
  name : Option String
  ip : Option Ip
deriving DecidableEq

/-- A question that the engine puts to one of its collaborators. -/
inductive Question where
  /-- What is the address of a host? -/
  | resolve (host : String)
  /-- Which country has an address? -/
  | country (ip : Ip)
  /-- The same, with no database to ask. -/
  | unanswerable (ip : Ip)
deriving DecidableEq

/-- The condition covers an address, and what is asked to find out. -/
def Condition.probe (c : Condition) (reader : Option CountryReader) (ip : Ip) :
    Bool × List Question :=
  match c, reader with
  | country code, some read =>
    ((read ip).any fun found => Text.sameLetters found code, [.country ip])
  | country _, none => (false, [.unanswerable ip])
  | c, _ => (c.coversIp reader ip, [])

namespace Rule

/-- The rule covers a destination by its name or by its address. -/
def covers (r : Rule) (reader : Option CountryReader) (s : Subject) : Bool :=
  s.name.any r.condition.coversName || s.ip.any (r.condition.coversIp reader)

/-- The rule covers a destination, and what is asked to find out. -/
def probe (r : Rule) (reader : Option CountryReader) (s : Subject) : Bool × List Question :=
  if s.name.any r.condition.coversName then (true, [])
  else
    match s.ip with
    | some ip => r.condition.probe reader ip
    | none => (false, [])

end Rule

/-- The first rule that covers a destination, and all that is asked to find it. -/
def scan (reader : Option CountryReader) (s : Subject) : List Rule → Option Rule × List Question
  | [] => (none, [])
  | r :: rules =>
    let here := r.probe reader s
    if here.1 then (some r, here.2)
    else
      let later := scan reader s rules
      (later.1, here.2 ++ later.2)

theorem Condition.probe_fst (c : Condition) (reader : Option CountryReader) (ip : Ip) :
    (c.probe reader ip).1 = c.coversIp reader ip := by
  cases c <;> cases reader <;> rfl

theorem Rule.probe_fst (r : Rule) (reader : Option CountryReader) (s : Subject) :
    (r.probe reader s).1 = r.covers reader s := by
  rcases e : s.name.any r.condition.coversName with - | -
  · rcases h : s.ip with - | ip <;> simp [probe, covers, e, h, Condition.probe_fst]
  · simp [probe, covers, e]

/-- The search finds the first rule that covers the destination. -/
theorem scan_fst (reader : Option CountryReader) (s : Subject) (rules : List Rule) :
    (scan reader s rules).1 = rules.find? (·.covers reader s) := by
  induction rules with
  | nil => rfl
  | cons r rules ih =>
    rcases e : r.covers reader s with - | - <;> simp [scan, Rule.probe_fst, e, ih]

end EgressPolicy
