/-
EgressPolicy/Proofs/CommandLine/Targets.lean

Whether a decision to hijack says where the connection goes.

An action comes to the engine from the rule file or from the settings.  A rule
that hijacks has a word for its target, because it is read from words
(`Builder.stored_of_rulesOf`).  The default is whatever the document has for
it: nobody looks at its target, which may be empty or hold blanks.  So a
decision that names no target is the default's, and there are such decisions
unless the default names a target as well, or a rule that covers everything
keeps it out of reach (`namesTarget_iff_of_prepare`).
-/
import Mathlib
import EgressPolicy.Files.Tree
import EgressPolicy.Proofs.CommandLine.Preparation
import EgressPolicy.Proofs.Engine.Origin
import EgressPolicy.Proofs.Rule.Stored

namespace EgressPolicy

open Text

/-! ### Decisions and their lines -/

namespace Decision

/-- If the decision is to hijack, it has a word for a target, and its line shows
that target behind the action. -/
def NamesTarget (destination : String) (d : Decision) : Prop :=
  ∀ target, d.action = .hijack target →
    IsWord target ∧ [destination, "->", "hijack", target] <+: d.words destination

/-- Whether a decision names a target is a matter of its action. -/
theorem namesTarget_iff {destination : String} {d : Decision} :
    d.NamesTarget destination ↔ d.action.Stored := by
  obtain ⟨a, isDomain, addr, error⟩ := d
  cases a with
  | hijack target =>
    constructor
    · intro h
      exact (h target rfl).1
    · intro hword target' h
      cases h
      refine ⟨hword, ?_⟩
      -- what is not empty is one of the words
      have hne : (Action.hijack target).target ≠ "" := hword.1
      rw [words, if_neg hne]
      exact List.prefix_append _ _
  | direct | proxy | block => exact iff_of_true (fun _ h => by cases h) trivial

end Decision

/-! ### Rules of files -/

/-- The rules of a file are in normal form, and so are their targets. -/
theorem Builder.stored_of_rulesOf {content : FileContent} {rules : List Rule}
    (h : rulesOf content = .ok rules) : ∀ r ∈ rules, r.Stored := by
  intro r hr
  obtain ⟨text, -, hlines⟩ := rulesOf_eq_ok_iff.mp h
  obtain ⟨l, hl⟩ := exists_of_forall₂_of_mem hlines hr
  exact Rule.stored_of_parse hl

/-! ### Runs -/

namespace CommandLine

variable {read : String → FileContent} {exchange : Exchange} {config : String}
  {overrides : Overrides} {resolver : Resolver} {e : Engine Database}

/-- **A decision to hijack names its target, or it is the default.**  In every
run of the engine that the settings and the rule file come to, whatever it
forgets and however the world changes, a decision that names no target has the
default action of the settings.  All decisions name their targets exactly if
that default does, or a rule covers everything. -/
theorem namesTarget_iff_of_prepare
    (h : prepare (m := Id) read exchange config overrides = .ok (resolver, e)) :
    ∃ c, settings config (read config) overrides = .ok c ∧
      (∀ turns, e.History e.cache.entries turns → ∀ t ∈ turns,
        (t.judgement e).decision.NamesTarget t.destination ∨
          (t.judgement e).decision.action = c.defaultAction) ∧
      ((∀ turns, e.History e.cache.entries turns → ∀ t ∈ turns,
          (t.judgement e).decision.NamesTarget t.destination) ↔
        c.defaultAction.Stored ∨ ∃ r ∈ e.rules, r.condition = .all) := by
  obtain ⟨c, rules, database, hc, -, hrules, rfl⟩ := exists_of_prepare_eq_ok h
  have hstored := Builder.stored_of_rulesOf hrules
  refine ⟨c, hc, ?_, ?_⟩
  · intro turns hturns t ht
    rw [Decision.namesTarget_iff]
    rcases hturns.offers t ht with ⟨r, hr, haction⟩ | ⟨hdefault, -⟩
    · exact .inl (haction ▸ (hstored r hr).2)
    · exact .inr hdefault.symm
  · simp only [Decision.namesTarget_iff]
    constructor
    · intro hall
      by_cases hevery : ∃ r ∈ rules, r.condition = .all
      · exact .inr hevery
      · -- the default is within reach, so it has to name its target as well
        have hnone : ∀ r ∈ rules, r.condition ≠ .all := fun r hr hcond => hevery ⟨r, hr, hcond⟩
        have hdefault := hall _ (Engine.history_nameless _) _ List.mem_cons_self
        rw [Engine.nameless_action hnone] at hdefault
        exact .inl hdefault
    · intro hor turns hturns t ht
      rcases hturns.offers t ht with ⟨r, hr, haction⟩ | ⟨hdefault, hnone⟩
      · exact haction ▸ (hstored r hr).2
      · rcases hor with hor | ⟨r, hr, hcond⟩
        · exact hdefault ▸ hor
        · exact absurd hcond (hnone r hr)

/-! ### A sample -/

namespace Sample

/-- Settings that hijack to a target by default, and a rule file. -/
def filesWithDefault (target rules : String) : FileTree :=
  .ofFiles [("acl.toml", ("rules = \"acl.txt\"\ndefault_action.hijack = \"" ++ target ++
      "\"\n[dns]\nstrategy = \"custom\"\nservers = [\"udp://127.0.0.1\"]\n").toUTF8),
    ("acl.txt", rules.toUTF8)]

/-- What these settings are read as. -/
def hijacking (target : String) : Config where
  rules := "acl.txt"
  defaultAction := .hijack target
  dns := { strategy := .custom, servers := ["udp://127.0.0.1"] }

end Sample

/-- A default with a target, beside a rule with another one. -/
theorem namesTarget_iff_of_prepare_sample :
    ∃ resolver e, prepare (m := Id) (Sample.filesWithDefault "10.0.0.2"
        "hijack domain a.test 10.0.0.1\n").read .silent "acl.toml" {} = .ok (resolver, e) ∧
      ∀ turns, e.History e.cache.entries turns → ∀ t ∈ turns,
        (t.judgement e).decision.NamesTarget t.destination := by
  have hc : settings "acl.toml" ((Sample.filesWithDefault "10.0.0.2"
      "hijack domain a.test 10.0.0.1\n").read "acl.toml") {} = .ok (Sample.hijacking "10.0.0.2") := by
    decide +kernel
  have hready : (prepare (m := Id) (Sample.filesWithDefault "10.0.0.2"
      "hijack domain a.test 10.0.0.1\n").read .silent "acl.toml" {}).isOk = true := by
    decide +kernel
  rcases h : prepare (m := Id) (Sample.filesWithDefault "10.0.0.2"
      "hijack domain a.test 10.0.0.1\n").read .silent "acl.toml" {} with failure | ⟨resolver, e⟩
  · rw [h] at hready
    cases hready
  · obtain ⟨c, hc', -, hnamed⟩ := namesTarget_iff_of_prepare h
    obtain rfl := Except.ok.inj (hc.symm.trans hc')
    exact ⟨resolver, e, rfl, hnamed.mpr (.inl (by decide))⟩

/-- An empty target passes all checks, and then there is none in the line. -/
theorem empty_target_passes :
    settings "acl.toml" ((Sample.filesWithDefault "" "").read "acl.toml") {}
      = .ok (Sample.hijacking "") ∧
    (prepare (m := Id) (Sample.filesWithDefault "" "").read .silent "acl.toml" {}).map
        (fun ready => ready.2.run [(worldOf .silent ready.1, "1.2.3.4")])
      = .ok [⟨.hijack "", false, some ⟨.v4 0x01020304#32, none⟩, none⟩] ∧
    ¬ Decision.NamesTarget "1.2.3.4" ⟨.hijack "", false, some ⟨.v4 0x01020304#32, none⟩, none⟩ ∧
    outcome (Sample.filesWithDefault "" "").read .silent ["match", "1.2.3.4"]
      = .done ["1.2.3.4 -> hijack (ip) addr=1.2.3.4"] := by
  refine ⟨by decide +kernel, by decide +kernel, ?_, by decide +kernel⟩
  intro h
  exact (h "" rfl).1.1 rfl

end CommandLine
end EgressPolicy
