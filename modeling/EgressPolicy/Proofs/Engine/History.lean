/-
EgressPolicy/Proofs/Engine/History.lean

Runs of an engine whose cache may lose anything at any time.

How a bounded cache chooses what to drop is nobody's promise.  So a run is
described by what each call found *at hand*: a memory that holds, under any
key, the action that was inserted last under it, or nothing.  Nothing else is
assumed: an entry may be missing now and back later, a new entry may be
refused in favour of an old one, and there is no bound on how many are there.

    History e log turns

says that the calls `turns` can follow one another on `e` after the
insertions `log`, newest first.  The engine's own cache, which drops its oldest
entry, is one such behaviour (`history_turns`, `decisions_turns`).

Main result: `History.decision_eq`.  If the uncached action under a key is the
same at every turn, each turn with that key decides as if nothing were
remembered, whatever was dropped in between.  What carries it is that nothing
is decided but what some turn with that key found without memory
(`History.forall_action`).
-/
import Mathlib
import EgressPolicy.Proofs.Engine.Cache
import EgressPolicy.Proofs.Engine.Uncached

namespace EgressPolicy

variable {γ : Type}

/-! ### Turns -/

/-- A call as it happens: in which world, for which destination, and what of
the engine's memory is at hand. -/
structure Turn (γ : Type) where
  world : World γ
  destination : String
  atHand : Cache

namespace Turn

/-- The key under which the call looks. -/
def key (t : Turn γ) : String := (Destination.ofString t.destination).key

/-- What the engine answers, given what is at hand. -/
def judgement (t : Turn γ) (e : Engine γ) : Judgement γ :=
  ({ e with cache := t.atHand } : Engine γ).judge t.world t.destination

/-- What the call inserts: the action it found, unless that was at hand. -/
def inserted (t : Turn γ) (e : Engine γ) : List (String × Action) :=
  match t.atHand.find? t.key with
  | some _ => []
  | none => [(t.key, (t.judgement e).decision.action)]

/-- The uncached decision of the turn. -/
def uncached (t : Turn γ) (e : Engine γ) : Decision := e.uncached t.world t.destination

theorem decision_of_some {t : Turn γ} {a : Action} (h : t.atHand.find? t.key = some a)
    (e : Engine γ) : (t.judgement e).decision = (t.uncached e).withAction a := by
  rw [judgement, Engine.judge_decision]
  simp only [Engine.uncached_withCache]
  rw [key] at h
  rw [h, Option.getD_some, uncached]

theorem decision_of_none {t : Turn γ} (h : t.atHand.find? t.key = none) (e : Engine γ) :
    (t.judgement e).decision = t.uncached e := by
  rw [judgement, Engine.judge_decision]
  simp only [Engine.uncached_withCache]
  rw [key] at h
  rw [h, Option.getD_none, uncached, Decision.withAction_self]

/-- Only the action of a decision can come from memory. -/
theorem decision_eq_withAction (t : Turn γ) (e : Engine γ) :
    (t.judgement e).decision = (t.uncached e).withAction (t.judgement e).decision.action := by
  rcases h : t.atHand.find? t.key with - | a
  · rw [decision_of_none h, Decision.withAction_self]
  · rw [decision_of_some h, Decision.withAction_action]

end Turn

/-! ### Histories -/

/-- The cache holds nothing that is not the last insertion under its key. -/
def Cache.Within (c : Cache) (log : List (String × Action)) : Prop :=
  ∀ key action, c.find? key = some action → log.lookup key = some action

/-- It is enough to look at each entry. -/
theorem Cache.within_of_forall_mem {c : Cache} {log : List (String × Action)}
    (h : ∀ p ∈ c.entries, log.lookup p.1 = some p.2) : c.Within log := by
  intro key a hfind
  obtain ⟨before, after, hsplit, -⟩ := List.lookup_eq_some_iff.mp hfind
  exact h (key, a) (by simp [hsplit])

/-- The calls `turns` can follow one another when `log` has been inserted,
newest first. -/
inductive Engine.History (e : Engine γ) : List (String × Action) → List (Turn γ) → Prop
  | nil (log : List (String × Action)) : e.History log []
  | cons {log : List (String × Action)} {t : Turn γ} {turns : List (Turn γ)} :
      t.atHand.Within log → e.History (t.inserted e ++ log) turns → e.History log (t :: turns)

namespace Engine

/-- What a turn does to the actions logged under a key: if the turn looks
under that key and finds nothing, its own action is logged from now on. -/
theorem lookup_inserted_append (e : Engine γ) (t : Turn γ) (log : List (String × Action))
    (key : String) :
    (t.inserted e ++ log).lookup key
      = if key = t.key ∧ t.atHand.find? key = none then some (t.uncached e).action
        else log.lookup key := by
  rw [Turn.inserted]
  rcases h : t.atHand.find? t.key with - | a
  · by_cases hk : key = t.key
    · simp [hk, h, Turn.decision_of_none h]
    · simp [hk, List.lookup_cons, beq_eq_false_iff_ne.mpr hk]
  · by_cases hk : key = t.key
    · simp [hk, h]
    · simp [hk]

/-- What holds of the actions in the log and of the uncached action of every
turn, each with its key, holds of the action of every turn. -/
theorem History.forall_action {e : Engine γ} {log : List (String × Action)}
    {turns : List (Turn γ)} (h : e.History log turns) {P : String → Action → Prop}
    (hlog : ∀ key a, log.lookup key = some a → P key a)
    (hturns : ∀ t ∈ turns, P t.key (t.uncached e).action) :
    ∀ t ∈ turns, P t.key (t.judgement e).decision.action := by
  induction h with
  | nil => simp
  | @cons log t turns hwithin _ ih =>
    have hhere : P t.key (t.uncached e).action := hturns t List.mem_cons_self
    intro t' ht'
    rcases List.mem_cons.mp ht' with rfl | ht'
    · -- what is at hand under the key was logged
      rcases hfind : t'.atHand.find? t'.key with - | b
      · rw [Turn.decision_of_none hfind]
        exact hhere
      · rw [Turn.decision_of_some hfind, Decision.withAction_action]
        exact hlog t'.key b (hwithin _ _ hfind)
    · -- the log may have grown by one action, which this turn found without memory
      refine ih ?_ (fun x hx => hturns x (List.mem_cons_of_mem _ hx)) t' ht'
      intro key b hb
      rw [lookup_inserted_append] at hb
      split at hb
      · rename_i hmiss
        obtain rfl := Option.some.inj hb
        exact hmiss.1 ▸ hhere
      · exact hlog key b hb

/-- An action that is the uncached one at every turn with a key is the action
of every turn with that key. -/
theorem History.action_eq {e : Engine γ} {log : List (String × Action)} {turns : List (Turn γ)}
    (h : e.History log turns) {key : String} {a : Action}
    (hlog : ∀ b, log.lookup key = some b → b = a)
    (hturns : ∀ t ∈ turns, t.key = key → (t.uncached e).action = a) :
    ∀ t ∈ turns, t.key = key → (t.judgement e).decision.action = a :=
  h.forall_action (P := fun k b => k = key → b = a) (fun _ b hb hk => hlog b (hk ▸ hb)) hturns

/-- A turn decides as if nothing were remembered, if all turns with its key
have one uncached action. -/
theorem History.decision_eq {e : Engine γ} {turns : List (Turn γ)} (h : e.History [] turns)
    {t : Turn γ} (ht : t ∈ turns)
    (hsame : ∀ t' ∈ turns, t'.key = t.key → (t'.uncached e).action = (t.uncached e).action) :
    (t.judgement e).decision = t.uncached e := by
  have haction : (t.judgement e).decision.action = (t.uncached e).action :=
    h.action_eq (by simp) hsame t ht rfl
  rw [t.decision_eq_withAction e, haction, Decision.withAction_self]

/-! ### The engine's own cache -/

/-- The turns of a run in which at hand is what the engine's own cache holds. -/
def turns (e : Engine γ) : List (World γ × String) → List (Turn γ)
  | [] => []
  | (w, s) :: calls => ⟨w, s, e.cache⟩ :: (e.judge w s).engine.turns calls

/-- A call changes an engine in its cache alone, and there nothing comes in but
what the call inserts. -/
theorem exists_cache_of_judge (e : Engine γ) {c : Cache} {log : List (String × Action)}
    (hc : c.Within log) (w : World γ) (s : String) :
    ∃ c' : Cache, (({ e with cache := c } : Engine γ).judge w s).engine = { e with cache := c' } ∧
      c'.Within (Turn.inserted ⟨w, s, c⟩ e ++ log) := by
  rcases h : c.find? (Destination.ofString s).key with - | a
  · -- a miss: the cache may drop others, but the one action it gains is logged
    refine ⟨c.insert (Destination.ofString s).key (e.uncached w s).action, ?_, ?_⟩
    · exact judge_engine_of_none (e := { e with cache := c }) h w
    · intro k b hb
      have hb' := Cache.find?_of_find?_insert hb
      rw [lookup_inserted_append]
      by_cases hk : k = (Destination.ofString s).key
      · rw [if_pos hk] at hb'
        rw [if_pos ⟨hk, hk ▸ h⟩, hb']
        rfl
      · rw [if_neg hk] at hb'
        rw [if_neg fun hcond => hk hcond.1]
        exact hc k b hb'
  · refine ⟨c, judge_engine_of_some (e := { e with cache := c }) h w, ?_⟩
    have hnone : Turn.inserted ⟨w, s, c⟩ e = [] := by
      rw [Turn.inserted, Turn.key, h]
    rw [hnone, List.nil_append]
    exact hc

/-- A run on the engine's own cache is one of the runs that are possible. -/
theorem history_turns (e : Engine γ) {c : Cache} {log : List (String × Action)}
    (hc : c.Within log) (calls : List (World γ × String)) :
    e.History log (({ e with cache := c } : Engine γ).turns calls) := by
  induction calls generalizing c log with
  | nil => exact .nil log
  | cons call calls ih =>
    obtain ⟨w, s⟩ := call
    obtain ⟨c', hengine, hc'⟩ := e.exists_cache_of_judge hc w s
    rw [turns, hengine]
    exact .cons hc (ih hc')

/-- The decisions of the turns are those of the run. -/
theorem decisions_turns (e : Engine γ) (c : Cache) (calls : List (World γ × String)) :
    (({ e with cache := c } : Engine γ).turns calls).map (fun t => (t.judgement e).decision)
      = ({ e with cache := c } : Engine γ).run calls := by
  induction calls generalizing c with
  | nil => rfl
  | cons call calls ih =>
    obtain ⟨w, s⟩ := call
    obtain ⟨c', hengine, -⟩ := e.exists_cache_of_judge (fun _ _ h => h : c.Within c.entries) w s
    rw [turns, run, List.map_cons, hengine, ih c']
    rfl

/-- The turns of a run are its calls, in order. -/
theorem calls_turns (e : Engine γ) (calls : List (World γ × String)) :
    (e.turns calls).map (fun t => (t.world, t.destination)) = calls := by
  induction calls generalizing e with
  | nil => rfl
  | cons call calls ih => rw [turns, List.map_cons, ih]

end Engine

/-! ### A sample policy -/

namespace Sample

/-- The addresses that start with 10. -/
def network : Network := .v4 ⟨0x0A000000#32, 8, by decide⟩

/-- Three rules that see a destination in three ways, and room for one action. -/
def builder : Builder where
  rules :=
    [⟨.block, .cidr network⟩,
     ⟨.hijack "127.0.0.1", .country "DE"⟩,
     ⟨.direct, .domainSuffix "test"⟩]
  capacity := 1

/-- The resolver knows one name and the database one address. -/
def world : World Unit where
  resolve name :=
    if name = "a.test" then .ok (.v6 0xFFFF0A000001#128) else .error ⟨name, "no such host"⟩
  country _ ip := if ip = .v4 0x09090909#32 then some "DE" else none

end Sample
end EgressPolicy
