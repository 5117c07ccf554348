/-
EgressPolicy/Engine/Basic.lean

The engine: rules, a default and a memory of past decisions.

A destination that reads as an address is judged by that address and never
resolved.  Anything else is a host name, and it is resolved each time, so
its address and the resolver's failure are always fresh; only the *action* is
remembered.  The memory is keyed by the canonical address text of a literal
(its zone does not count) and by the exact text of a host name.

The engine's collaborators are values of a `World`, given to each call: what
the resolver answers now, and what a country database says now.  Databases
are handles of a type `γ`, which the engine keeps and never looks into.
-/
import EgressPolicy.Engine.Cache
import EgressPolicy.Engine.Decision
import EgressPolicy.Engine.Scan

namespace EgressPolicy

/-- The answers of the engine's collaborators during one call. -/
structure World (γ : Type) where
  /-- The resolver. -/
  resolve : String → Except ResolveError Ip
  /-- What an open country database says. -/
  country : γ → CountryReader

/-- Rules in order, the action where none covers, remembered actions, and the
country database that was opened. -/
structure Engine (γ : Type) where
  rules : List Rule
  defaultAction : Action
  cache : Cache
  database : Option γ

/-- What a destination text turns out to be. -/
inductive Destination where
  | literal (addr : ZonedIp)
  | host (name : String)
deriving DecidableEq

namespace Destination

/-- An address if the text reads as one, and a host name otherwise. -/
def ofString (s : String) : Destination :=
  match ZonedIp.ofString? s with
  | some addr => literal addr
  | none => host s

/-- The key under which the action is remembered. -/
def key : Destination → String
  | literal addr => addr.ip.render
  | host name => name

end Destination

/-- The answer for one destination, the engine after it, and what was asked. -/
structure Judgement (γ : Type) where
  decision : Decision
  engine : Engine γ
  questions : List Question

namespace Engine

variable {γ : Type}

/-- The reader of the engine's database. -/
def reader (e : Engine γ) (w : World γ) : Option CountryReader := e.database.map w.country

/-- The action of the first rule that covers a destination, or the default;
and what is asked to find it. -/
def search (e : Engine γ) (w : World γ) (s : Subject) : Action × List Question :=
  let found := scan (e.reader w) s e.rules
  (found.1.elim e.defaultAction Rule.action, found.2)

/-- The action remembered under a key, or else the one that a search finds,
which is remembered from then on. -/
def consult (e : Engine γ) (w : World γ) (key : String) (s : Subject) :
    Action × Engine γ × List Question :=
  match e.cache.find? key with
  | some action => (action, e, [])
  | none =>
    let (action, asked) := e.search w s
    (action, { e with cache := e.cache.insert key action }, asked)

/-- The answer for a destination. -/
def judge (e : Engine γ) (w : World γ) (destination : String) : Judgement γ :=
  let d := Destination.ofString destination
  match d with
  | .literal addr =>
    let (action, e', asked) := e.consult w d.key ⟨none, some addr.ip⟩
    ⟨⟨action, false, some addr, none⟩, e', asked⟩
  | .host name =>
    match w.resolve name with
    | .ok ip =>
      let (action, e', asked) := e.consult w d.key ⟨some name, some ip.canonical⟩
      ⟨⟨action, true, some ⟨ip.canonical, none⟩, none⟩, e', .resolve name :: asked⟩
    | .error error =>
      let (action, e', asked) := e.consult w d.key ⟨some name, none⟩
      ⟨⟨action, true, none, some error⟩, e', .resolve name :: asked⟩

/-- The decisions of successive calls, each in a world of its own. -/
def run (e : Engine γ) : List (World γ × String) → List Decision
  | [] => []
  | (w, destination) :: calls =>
    let j := e.judge w destination
    j.decision :: j.engine.run calls

end Engine
end EgressPolicy
