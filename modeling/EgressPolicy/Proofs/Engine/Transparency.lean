/-
EgressPolicy/Proofs/Engine/Transparency.lean

A memory that is never seen.

As long as the resolver and the country database answer each question in one
way, an engine decides as if it remembered nothing, however much it forgets
and whenever it does (`decisions_eq_uncached`).  So no decision depends on the
calls before it.

What has to be shown is that destinations with one key have one uncached
action (`uncached_action_of_key_eq`).  Two literals of one key have one
canonical address, a literal and a host name never meet, and rules are not
shown how a literal was spelled.
-/
import Mathlib
import EgressPolicy.Proofs.Engine.History
import EgressPolicy.Proofs.Engine.Key

namespace EgressPolicy

variable {γ : Type}

namespace Engine

/-- In one world, destinations with one key have one action. -/
theorem uncached_action_of_key_eq (e : Engine γ) (w : World γ) {s t : String}
    (h : (Destination.ofString s).key = (Destination.ofString t).key) :
    (e.uncached w s).action = (e.uncached w t).action := by
  rcases Destination.key_eq_iff.mp h with ⟨a, b, hs, ht, hip⟩ | ⟨-, -, rfl⟩
  · rw [uncached_of_literal hs, uncached_of_literal ht, hip]
  · rfl

/-- Where all turns are in one world, each decision is the uncached one. -/
theorem History.decision_eq_uncached {e : Engine γ} {w : World γ} {turns : List (Turn γ)}
    (h : e.History [] turns) (hw : ∀ t ∈ turns, t.world = w) :
    ∀ t ∈ turns, (t.judgement e).decision = e.uncached w t.destination := by
  intro t ht
  have hsame : ∀ t' ∈ turns, t'.key = t.key → (t'.uncached e).action = (t.uncached e).action := by
    intro t' ht' hkey
    rw [Turn.uncached, Turn.uncached, hw t' ht', hw t ht]
    exact e.uncached_action_of_key_eq w hkey
  rw [h.decision_eq ht hsame, Turn.uncached, hw t ht]

/-- A run of the engine itself, in one world, gives the uncached decisions. -/
theorem run_eq_uncached {e : Engine γ} (hempty : e.cache.entries = []) {w : World γ}
    {calls : List (World γ × String)} (hw : ∀ call ∈ calls, call.1 = w) :
    e.run calls = calls.map fun call => e.uncached w call.2 := by
  have hcalls := e.calls_turns calls
  have hworld : ∀ t ∈ e.turns calls, t.world = w := by
    intro t ht
    have hmem := List.mem_map_of_mem (f := fun t : Turn γ => (t.world, t.destination)) ht
    rw [hcalls] at hmem
    exact hw _ hmem
  have hwithin : e.cache.Within [] := by
    intro key a h
    rw [Cache.find?, hempty] at h
    exact h
  calc e.run calls
      = (e.turns calls).map fun t => (t.judgement e).decision :=
        (e.decisions_turns e.cache calls).symm
    _ = (e.turns calls).map fun t => e.uncached w t.destination :=
        List.map_congr_left fun t ht =>
          (e.history_turns hwithin calls).decision_eq_uncached hworld t ht
    _ = ((e.turns calls).map fun t => (t.world, t.destination)).map
          fun call => e.uncached w call.2 := by
        rw [List.map_map]
        rfl
    _ = calls.map fun call => e.uncached w call.2 := by rw [hcalls]

end Engine

/-- **A cache that may lose anything at any time is never seen**: every
decision is the uncached one, in every run of a built engine in a world that
does not change.  In particular this is so with the engine's own cache, of
whatever capacity. -/
theorem decisions_eq_uncached {b : Builder} {openDatabase : Except LoadError γ} {e : Engine γ}
    (hb : b.build (m := Id) openDatabase = .ok e) (w : World γ) :
    (∀ turns, e.History e.cache.entries turns → (∀ t ∈ turns, t.world = w) →
      turns.map (fun t => (t.judgement e).decision)
        = turns.map fun t =>
            uncachedDecision b.rules b.defaultAction (e.reader w) w.resolve t.destination) ∧
    ∀ destinations : List String,
      e.run (destinations.map fun s => (w, s))
        = destinations.map (uncachedDecision b.rules b.defaultAction (e.reader w) w.resolve) := by
  obtain ⟨database, rfl⟩ := Engine.eq_toEngine_of_build hb
  constructor
  · intro turns h hw
    exact List.map_congr_left fun t ht => h.decision_eq_uncached hw t ht
  · intro destinations
    rw [Engine.run_eq_uncached rfl (by simp : ∀ call ∈ destinations.map fun s => (w, s), call.1 = w),
      List.map_map]
    rfl

/-- Two actions change places, one is lost, and one is kept beyond the room there is. -/
def Sample.turns : List (Turn Unit) :=
  [⟨world, "::ffff:10.0.0.1%eth0", ⟨1, []⟩⟩,
   ⟨world, "a.test", ⟨1, [("10.0.0.1", .block)]⟩⟩,
   ⟨world, "10.0.0.1", ⟨1, []⟩⟩,
   ⟨world, "9.9.9.9", ⟨1, [("a.test", .block), ("10.0.0.1", .block)]⟩⟩]

/-- The sample engine, whatever it forgets. -/
theorem decisions_eq_uncached_sample :
    (Sample.builder.toEngine (some ())).History [] Sample.turns ∧
    Sample.turns.map (fun t => (t.judgement (Sample.builder.toEngine (some ()))).decision)
      = [⟨.block, false, some ⟨.v4 0x0A000001#32, some "eth0"⟩, none⟩,
         ⟨.block, true, some ⟨.v4 0x0A000001#32, none⟩, none⟩,
         ⟨.block, false, some ⟨.v4 0x0A000001#32, none⟩, none⟩,
         ⟨.hijack "127.0.0.1", false, some ⟨.v4 0x09090909#32, none⟩, none⟩] := by
  have hb : Sample.builder.build (m := Id) (.ok ()) = .ok (Sample.builder.toEngine (some ())) := rfl
  have hh : (Sample.builder.toEngine (some ())).History [] Sample.turns := by
    refine .cons ?_ (.cons ?_ (.cons ?_ (.cons ?_ (.nil _)))) <;>
      exact Cache.within_of_forall_mem (by decide +kernel)
  refine ⟨hh, ((decisions_eq_uncached hb Sample.world).1 _ hh ?_).trans ?_⟩
  · simp [Sample.turns]
  · decide +kernel

end EgressPolicy
