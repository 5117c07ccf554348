/-
EgressPolicy/Proofs/Engine/Sharing.lean

Which calls share what is remembered.

Under which key a call looks can be told from outside: it takes whatever is
remembered under that key, and where nothing is, what it finds is remembered
there (`LooksUnder`).  A call looks under one key only, since two different
keys could hold two different actions (`LooksUnder.unique`), and that is the
key of its destination (`looksUnder_iff`).  So calls share an entry exactly if
their destinations have one key, which for two literals means one canonical
address, for two host names the same text, and for one of each never comes true
(`looksUnder_one_key_iff`).
-/
import Mathlib
import EgressPolicy.Proofs.Engine.Key
import EgressPolicy.Proofs.Engine.Uncached

namespace EgressPolicy

variable {γ : Type}

/-- A call for the destination looks under the key, in every engine and every
world: an action that is remembered there is its answer, and then it leaves the
engine as it is; otherwise the answer is remembered there. -/
structure LooksUnder (γ : Type) (destination key : String) : Prop where
  hit (e : Engine γ) (w : World γ) (a : Action) : e.cache.find? key = some a →
    (e.judge w destination).decision.action = a ∧ (e.judge w destination).engine = e
  miss (e : Engine γ) (w : World γ) : e.cache.find? key = none →
    (e.judge w destination).engine
      = { e with cache := e.cache.insert key (e.judge w destination).decision.action }

/-- An engine without rules that remembers these actions. -/
def Engine.remembering (γ : Type) (entries : List (String × Action)) : Engine γ where
  rules := []
  defaultAction := .direct
  cache := ⟨entries.length, entries⟩
  database := none

theorem looksUnder_key (destination : String) :
    LooksUnder γ destination (Destination.ofString destination).key where
  hit e w a h := by
    rw [Engine.judge_decision, h]
    exact ⟨rfl, Engine.judge_engine_of_some h w⟩
  miss e w h := by
    rw [Engine.judge_engine_of_none h, Engine.judge_decision, h]
    rfl

/-- Under two keys there may be two actions, and a call has one answer. -/
theorem LooksUnder.unique {destination k k' : String} (h : LooksUnder γ destination k)
    (h' : LooksUnder γ destination k') : k = k' := by
  by_contra hne
  have hk : (Engine.remembering γ [(k, .block), (k', .proxy)]).cache.find? k = some .block :=
    List.lookup_cons_self
  have hk' : (Engine.remembering γ [(k, .block), (k', .proxy)]).cache.find? k' = some .proxy := by
    show List.lookup k' [(k, Action.block), (k', Action.proxy)] = some .proxy
    rw [List.lookup_cons, beq_eq_false_iff_ne.mpr (Ne.symm hne), List.lookup_cons_self]
  have hblock := (h.hit _ (.unknown γ) .block hk).1
  rw [(h'.hit _ (.unknown γ) .proxy hk').1] at hblock
  cases hblock

theorem looksUnder_iff {destination k : String} :
    LooksUnder γ destination k ↔ (Destination.ofString destination).key = k := by
  constructor
  · exact (looksUnder_key destination).unique
  · rintro rfl
    exact looksUnder_key destination

/-- **Calls share an entry exactly if their destinations are literals of one
canonical address, or one and the same host name.**  Each call looks under one
key; so no literal shares an entry with a host name, and no two canonical
addresses share one. -/
theorem looksUnder_one_key_iff (γ : Type) :
    (∀ s, ∃! key, LooksUnder γ s key) ∧
    ∀ s t, (∃ key, LooksUnder γ s key ∧ LooksUnder γ t key) ↔
      (∃ a b, ZonedIp.ofString? s = some a ∧ ZonedIp.ofString? t = some b ∧ a.ip = b.ip) ∨
      (ZonedIp.ofString? s = none ∧ ZonedIp.ofString? t = none ∧ s = t) := by
  constructor
  · intro s
    exact ⟨_, looksUnder_key s, fun key h => h.unique (looksUnder_key s)⟩
  · intro s t
    rw [← Destination.key_eq_iff]
    simp only [looksUnder_iff, exists_eq_left']
    exact eq_comm

end EgressPolicy
