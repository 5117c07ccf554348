/-
EgressPolicy/Proofs/CommandLine/Prediction.lean

What a check of the rule file says about decisions.

A check reads the rule file and no other file.  Deciding reads it as well, after
the settings and the resolver are in place, and has only the country database
left to open when the file is good.  So a check that fails tells how deciding
fails; one that succeeds tells whether deciding still depends on the database
(`exists_prepare_iff`), and how many rules there are to decide by.
-/
import Mathlib
import EgressPolicy.Files.Tree
import EgressPolicy.Proofs.CommandLine.Preparation

namespace EgressPolicy.CommandLine

variable {read : String → FileContent} {exchange : Exchange} {args : List String}

/-! ### Checks -/

/-- Of a file that can be used, a check tells the rules. -/
theorem outcome_check_of_rules {path : String} {rules : List Rule}
    (h : Request.ofArguments args = .run (.check path))
    (hrules : Builder.rulesOf (read path) = .ok rules) :
    outcome read exchange args = .done (checkLines path { rules }) := by
  rw [outcome_of_ofArguments h, Command.run, check_eq, hrules]
  rfl

/-- A file that cannot be used fails a check. -/
theorem outcome_check_of_error {path : String} {error : LoadError}
    (h : Request.ofArguments args = .run (.check path))
    (hrules : Builder.rulesOf (read path) = .error error) :
    outcome read exchange args = .failed (.load error) := by
  rw [outcome_of_ofArguments h, Command.run, check_eq, hrules]
  rfl

/-! ### Decisions after a check -/

variable {config : String} {overrides : Overrides} {destinations : List String} {c : Config}
  {resolver : Resolver}

/-- A file that cannot be used fails what comes before the first decision. -/
theorem prepare_of_error {error : LoadError}
    (hc : settings config (read config) overrides = .ok c)
    (hresolver : Resolver.ofSettings c.dns exchange = .ok resolver)
    (hrules : Builder.rulesOf (read c.rules) = .error error) :
    prepare (m := Id) read exchange config overrides = .error (.load error) := by
  rw [prepare_of_settings hc hresolver, engineOf_eq, hrules]
  rfl

/-- With the rules of a file, only their database can still be missing. -/
theorem exists_prepare_iff {rules : List Rule}
    (hc : settings config (read config) overrides = .ok c)
    (hresolver : Resolver.ofSettings c.dns exchange = .ok resolver)
    (hrules : Builder.rulesOf (read c.rules) = .ok rules) :
    (∃ ready, prepare (m := Id) read exchange config overrides = .ok ready) ↔
      (({ rules } : Builder).needsDatabase = true → HasDatabase read c.database) := by
  have hneeds : ({ rules } : Builder).needsDatabase = (builderOf c rules).needsDatabase := rfl
  rw [prepare_of_settings hc hresolver, engineOf_eq, hrules, hneeds, ← exists_build_iff]
  show (∃ ready, ((builderOf c rules).build (m := Id)
    (openDatabase (m := Id) read c.database)).mapError Failure.load >>= _ = .ok ready) ↔ _
  rcases (builderOf c rules).build (m := Id) (openDatabase (m := Id) read c.database)
    with error | e
  · exact iff_of_false (fun ⟨_, h⟩ => by cases h) (fun ⟨_, h⟩ => by cases h)
  · exact iff_of_true ⟨_, rfl⟩ ⟨_, rfl⟩

/-- The program succeeds in deciding exactly if everything gets ready. -/
theorem status_eq_zero_iff
    (h : Request.ofArguments args = .run (.judge config overrides destinations)) :
    (outcome read exchange args).status = 0 ↔
      ∃ ready, prepare (m := Id) read exchange config overrides = .ok ready := by
  rcases hprepare : prepare (m := Id) read exchange config overrides with failure | ⟨resolver, e⟩
  · rw [outcome_of_prepare_eq_error hprepare h]
    simp [Outcome.status]
  · rw [outcome_of_prepare_eq_ok hprepare h]
    simp [Outcome.status]

/-- Whatever is decided is decided by the rules of the file. -/
theorem exists_engine_of_done {rules : List Rule} {out : List String}
    (h : Request.ofArguments args = .run (.judge config overrides destinations))
    (hc : settings config (read config) overrides = .ok c)
    (hresolver : Resolver.ofSettings c.dns exchange = .ok resolver)
    (hrules : Builder.rulesOf (read c.rules) = .ok rules)
    (hout : outcome read exchange args = .done out) :
    ∃ e, prepare (m := Id) read exchange config overrides = .ok (resolver, e) ∧
      e.rules = rules ∧ e.Evaluates rules c.defaultAction ∧
      out = decisionLines (worldOf exchange resolver) e destinations := by
  rcases hprepare : prepare (m := Id) read exchange config overrides with failure | ⟨resolver', e⟩
  · rw [outcome_of_prepare_eq_error hprepare h] at hout
    cases hout
  · rw [outcome_of_prepare_eq_ok hprepare h] at hout
    cases hout
    obtain ⟨c', rules', database, hc', hresolver', hrules', rfl⟩ :=
      exists_of_prepare_eq_ok hprepare
    -- there is one way only to pass the stages
    obtain rfl := Except.ok.inj (hc.symm.trans hc')
    obtain rfl := Except.ok.inj (hresolver.symm.trans hresolver')
    obtain rfl := Except.ok.inj (hrules.symm.trans hrules')
    exact ⟨_, rfl, rfl, (builderOf c rules).evaluates_toEngine database, rfl⟩

/-- **A check predicts what deciding comes to**, for settings that are of use,
with a resolver, and whose rules path leads to what was checked.  The check
fails exactly if the rule file is unusable, and then deciding fails in the same
way.  If it says that no database is required, deciding succeeds, whatever the
settings have to say about one; and if it says that one is required, deciding
succeeds exactly if there is one.  The rules that it counts are those of the
file, and the engine evaluates just these. -/
theorem check_predicts_outcome (read : String → FileContent) (exchange : Exchange)
    {checking deciding : List String} {path config : String} {overrides : Overrides}
    {destinations : List String} {c : Config} {resolver : Resolver}
    (hcheck : Request.ofArguments checking = .run (.check path))
    (hjudge : Request.ofArguments deciding = .run (.judge config overrides destinations))
    (hc : settings config (read config) overrides = .ok c)
    (hresolver : Resolver.ofSettings c.dns exchange = .ok resolver)
    (hpath : read c.rules = read path) :
    outcome read exchange checking ≠ .misused ∧
    (∀ failure, outcome read exchange checking = .failed failure ↔
      ∃ error, (read path).Unusable error ∧ failure = .load error) ∧
    (∀ failure, outcome read exchange checking = .failed failure →
      outcome read exchange deciding = .failed failure) ∧
    ∀ lines, outcome read exchange checking = .done lines → ∃ rules needed,
      (read path).HoldsRules rules ∧
      lines = [path ++ ": " ++ toString rules.length ++ " rules", "geoip: " ++ needed] ∧
      (needed = "not required" ∧ (outcome read exchange deciding).status = 0 ∨
        needed = "required" ∧
          ((outcome read exchange deciding).status = 0 ↔ HasDatabase read c.database)) ∧
      ∀ out, outcome read exchange deciding = .done out →
        ∃ e, prepare (m := Id) read exchange config overrides = .ok (resolver, e) ∧
          e.rules = rules ∧ e.Evaluates rules c.defaultAction ∧
          out = decisionLines (worldOf exchange resolver) e destinations := by
  -- both commands read the same file, so they see the same rules or the same error
  rcases hrules : Builder.rulesOf (read path) with error | rules
  · have hchecked : outcome read exchange checking = .failed (.load error) :=
      outcome_check_of_error hcheck hrules
    have hfails : prepare (m := Id) read exchange config overrides = .error (.load error) :=
      prepare_of_error hc hresolver (hpath ▸ hrules)
    rw [hchecked, outcome_of_prepare_eq_error hfails hjudge]
    refine ⟨by simp, fun failure => ?_, fun failure h => h, by simp⟩
    simp [← Builder.rulesOf_eq_error_iff, hrules, eq_comm]
  · have hchecked : outcome read exchange checking = .done (checkLines path { rules }) :=
      outcome_check_of_rules hcheck hrules
    have hready := exists_prepare_iff hc hresolver (hpath ▸ hrules)
    rw [hchecked]
    refine ⟨by simp, fun failure => ?_, by simp, ?_⟩
    · simp [← Builder.rulesOf_eq_error_iff, hrules]
    rintro lines ⟨⟩
    refine ⟨rules, _, Builder.rulesOf_eq_ok_iff.mp hrules, rfl, ?_, fun out hout => ?_⟩
    · rw [status_eq_zero_iff hjudge, hready]
      rcases hneeds : ({ rules } : Builder).needsDatabase
      · exact .inl ⟨rfl, fun h => by cases h⟩
      · exact .inr ⟨rfl, by simp⟩
    · exact exists_engine_of_done hjudge hc hresolver (hpath ▸ hrules) hout

/-! ### A sample -/

namespace Sample

/-- Settings with a path to a database that is not there, and a rule file. -/
def filesWithRules (rules : String) : FileTree :=
  .ofFiles [("acl.toml", "rules = 'acl.txt'\n[geoip]\npath = 'gone.mmdb'\n".toUTF8),
    ("acl.txt", rules.toUTF8)]

/-- What these settings are read as. -/
def lostDatabase : Config := { rules := "acl.txt", database := some "gone.mmdb" }

end Sample

/-- The missing database makes deciding fail if the check says that it is required. -/
theorem check_predicts_outcome_sample :
    outcome (Sample.filesWithRules "block all\n").read .silent ["check", "--rules", "acl.txt"]
      = .done ["acl.txt: 1 rules", "geoip: not required"] ∧
    (outcome (Sample.filesWithRules "block all\n").read .silent ["match", "a.test"]).status = 0 ∧
    outcome (Sample.filesWithRules "block country de\n").read .silent ["check", "--rules", "acl.txt"]
      = .done ["acl.txt: 1 rules", "geoip: required"] ∧
    (outcome (Sample.filesWithRules "block country de\n").read .silent ["match", "a.test"]).status
      ≠ 0 := by
  have hcheck : Request.ofArguments ["check", "--rules", "acl.txt"] = .run (.check "acl.txt") := by
    decide +kernel
  have hjudge : Request.ofArguments ["match", "a.test"]
      = .run (.judge "acl.toml" {} ["a.test"]) := by
    decide +kernel
  have hfree : outcome (Sample.filesWithRules "block all\n").read .silent
      ["check", "--rules", "acl.txt"] = .done ["acl.txt: 1 rules", "geoip: not required"] := by
    decide +kernel
  have hbound : outcome (Sample.filesWithRules "block country de\n").read .silent
      ["check", "--rules", "acl.txt"] = .done ["acl.txt: 1 rules", "geoip: required"] := by
    decide +kernel
  refine ⟨hfree, ?_, hbound, ?_⟩
  · have hc : settings "acl.toml" ((Sample.filesWithRules "block all\n").read "acl.toml") {}
        = .ok Sample.lostDatabase := by
      decide +kernel
    obtain ⟨-, -, -, hpredict⟩ := check_predicts_outcome _ .silent hcheck hjudge hc rfl rfl
    obtain ⟨rules, needed, -, hlines, ⟨-, hstatus⟩ | ⟨rfl, -⟩, -⟩ := hpredict _ hfree
    · exact hstatus
    · exact absurd hlines (by simp)
  · have hc : settings "acl.toml" ((Sample.filesWithRules "block country de\n").read "acl.toml") {}
        = .ok Sample.lostDatabase := by
      decide +kernel
    have hgone : (Sample.filesWithRules "block country de\n").read "gone.mmdb"
        = .error .missing := by
      decide +kernel
    obtain ⟨-, -, -, hpredict⟩ := check_predicts_outcome _ .silent hcheck hjudge hc rfl rfl
    obtain ⟨rules, needed, -, hlines, ⟨rfl, -⟩ | ⟨-, hstatus⟩, -⟩ := hpredict _ hbound
    · exact absurd hlines (by simp)
    · rw [ne_eq, hstatus]
      rintro ⟨file, bytes, db, hfile, hread, -⟩
      obtain rfl := Option.some.inj hfile
      rw [hgone] at hread
      cases hread

end EgressPolicy.CommandLine
