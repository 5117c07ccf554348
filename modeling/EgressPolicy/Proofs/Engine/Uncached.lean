/-
EgressPolicy/Proofs/Engine/Uncached.lean

The decision of an engine that remembers nothing, and what memory makes of it.

`uncachedDecision` knows rules, a default, a reader and a resolver; it has no engine
and no past.  `judge_eq` then says all that one call does: it consults the
memory under the destination's key, the action of the decision is what the
memory gives, and everything else in the decision is the uncached one's.  Its
corollaries speak of a hit and of a miss; no later proof unfolds `judge`.
-/
import Mathlib
import EgressPolicy.Engine.Builder

namespace EgressPolicy

/-! ### Decisions without memory -/

/-- The action of the first rule whose condition passes `test`, or `fallback`. -/
def firstMatch (rules : List Rule) (fallback : Action) (test : Condition → Bool) : Action :=
  (rules.find? fun r => test r.condition).elim fallback Rule.action

/-- The decision for a destination where nothing is remembered.  A literal is
judged by its canonical address; a host name by its name and, if it resolves,
by its canonical address as well. -/
def uncachedDecision (rules : List Rule) (fallback : Action) (reader : Option CountryReader)
    (resolve : String → Except ResolveError Ip) (destination : String) : Decision :=
  match ZonedIp.ofString? destination with
  | some addr =>
    ⟨firstMatch rules fallback fun c => c.coversIp reader addr.ip, false, some addr, none⟩
  | none =>
    match resolve destination with
    | .ok ip =>
      ⟨firstMatch rules fallback fun c =>
          c.coversName destination || c.coversIp reader ip.canonical,
        true, some ⟨ip.canonical, none⟩, none⟩
    | .error error =>
      ⟨firstMatch rules fallback fun c => c.coversName destination, true, none, some error⟩

/-- A decision with another action. -/
def Decision.withAction (d : Decision) (action : Action) : Decision := { d with action }

@[simp] theorem Decision.withAction_action (d : Decision) (action : Action) :
    (d.withAction action).action = action := rfl

@[simp] theorem Decision.withAction_self (d : Decision) : d.withAction d.action = d := rfl

variable {γ : Type}

/-- A world in which no host and no country is known. -/
def World.unknown (γ : Type) : World γ where
  resolve host := .error ⟨host, ""⟩
  country _ _ := none

/-- What an engine decides in a world if it has nothing remembered. -/
def Engine.uncached (e : Engine γ) (w : World γ) (destination : String) : Decision :=
  uncachedDecision e.rules e.defaultAction (e.reader w) w.resolve destination

namespace Engine

/-- Nothing that is remembered enters into an uncached decision. -/
@[simp] theorem uncached_withCache (e : Engine γ) (c : Cache) :
    ({ e with cache := c } : Engine γ).uncached = e.uncached := rfl

theorem uncached_of_literal {s : String} {addr : ZonedIp} (h : ZonedIp.ofString? s = some addr)
    (e : Engine γ) (w : World γ) :
    e.uncached w s
      = ⟨firstMatch e.rules e.defaultAction fun c => c.coversIp (e.reader w) addr.ip,
          false, some addr, none⟩ := by
  rw [Engine.uncached, uncachedDecision, h]

/-! ### One call -/

/-- A search finds the first match. -/
theorem search_fst (e : Engine γ) (w : World γ) (s : Subject) :
    (e.search w s).1 = firstMatch e.rules e.defaultAction fun c =>
      s.name.any c.coversName || s.ip.any (c.coversIp (e.reader w)) := by
  rw [search, scan_fst]
  rfl

theorem consult_of_some {e : Engine γ} {key : String} {a : Action}
    (h : e.cache.find? key = some a) (w : World γ) (s : Subject) :
    e.consult w key s = (a, e, []) := by
  rw [consult, h]

theorem consult_of_none {e : Engine γ} {key : String} (h : e.cache.find? key = none)
    (w : World γ) (s : Subject) :
    e.consult w key s
      = ((e.search w s).1, { e with cache := e.cache.insert key (e.search w s).1 },
          (e.search w s).2) := by
  rw [consult, h]

/-- The destination as the rules see it in a world. -/
def subject (w : World γ) (destination : String) : Subject :=
  match ZonedIp.ofString? destination with
  | some addr => ⟨none, some addr.ip⟩
  | none =>
    match w.resolve destination with
    | .ok ip => ⟨some destination, some ip.canonical⟩
    | .error _ => ⟨some destination, none⟩

theorem subject_of_literal {s : String} {addr : ZonedIp} (h : ZonedIp.ofString? s = some addr)
    (w : World γ) : subject w s = ⟨none, some addr.ip⟩ := by
  rw [subject, h]

/-- Of the resolver's answer the rules see the canonical address, if any. -/
theorem subject_of_host {s : String} (h : ZonedIp.ofString? s = none) (w : World γ) :
    subject w s = ⟨some s, (w.resolve s).toOption.map Ip.canonical⟩ := by
  rw [subject, h]
  rcases w.resolve s with error | ip <;> rfl

/-- The uncached action is what a search for the destination finds. -/
theorem search_subject_fst (e : Engine γ) (w : World γ) (s : String) :
    (e.search w (subject w s)).1 = (e.uncached w s).action := by
  rw [search_fst, Engine.uncached, uncachedDecision, subject]
  rcases ZonedIp.ofString? s with - | addr
  · rcases w.resolve s with error | ip <;> simp
  · simp

/-- What a call asks the resolver: the address of a host name, always, and
nothing about a literal. -/
def lookups (destination : String) : List Question :=
  match ZonedIp.ofString? destination with
  | some _ => []
  | none => [.resolve destination]

/-- A call consults the memory under the destination's key.  What it finds
there is the action of a decision whose other parts are found anew. -/
theorem judge_eq (e : Engine γ) (w : World γ) (s : String) :
    e.judge w s
      = ⟨(e.uncached w s).withAction
            (e.consult w (Destination.ofString s).key (subject w s)).1,
          (e.consult w (Destination.ofString s).key (subject w s)).2.1,
          lookups s ++ (e.consult w (Destination.ofString s).key (subject w s)).2.2⟩ := by
  rw [judge, Engine.uncached, uncachedDecision, subject, lookups]
  rcases h : ZonedIp.ofString? s with - | addr
  · simp only [Destination.ofString, h]
    rcases w.resolve s with error | ip <;> rfl
  · simp only [Destination.ofString, h]
    rfl

/-- The decision of a call: the action that is remembered under the key, and
everything else as if nothing were remembered. -/
theorem judge_decision (e : Engine γ) (w : World γ) (s : String) :
    (e.judge w s).decision
      = (e.uncached w s).withAction
          ((e.cache.find? (Destination.ofString s).key).getD (e.uncached w s).action) := by
  rw [judge_eq]
  rcases hc : e.cache.find? (Destination.ofString s).key with - | a
  · simp only [consult_of_none hc, search_subject_fst, Option.getD_none]
  · simp only [consult_of_some hc, Option.getD_some]

/-- A call that finds its key leaves the engine alone. -/
theorem judge_engine_of_some {e : Engine γ} {s : String} {a : Action}
    (h : e.cache.find? (Destination.ofString s).key = some a) (w : World γ) :
    (e.judge w s).engine = e := by
  rw [judge_eq, consult_of_some h]

/-- A call that does not find its key remembers the uncached action under it. -/
theorem judge_engine_of_none {e : Engine γ} {s : String}
    (h : e.cache.find? (Destination.ofString s).key = none) (w : World γ) :
    (e.judge w s).engine
      = { e with
          cache := e.cache.insert (Destination.ofString s).key (e.uncached w s).action } := by
  rw [judge_eq, consult_of_none h, search_subject_fst]

/-! ### Built engines -/

/-- A built engine has the builder's rules, default and room, and an empty memory. -/
theorem eq_toEngine_of_build {b : Builder} {openDatabase : Except LoadError γ} {e : Engine γ}
    (h : b.build (m := Id) openDatabase = .ok e) : ∃ database, e = b.toEngine database := by
  rw [Builder.build] at h
  split at h
  · rcases openDatabase with error | database
    · cases h
    · exact ⟨some database, (Except.ok.inj h).symm⟩
  · exact ⟨none, (Except.ok.inj h).symm⟩

end Engine
end EgressPolicy
