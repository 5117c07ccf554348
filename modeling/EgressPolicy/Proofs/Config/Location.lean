/-
EgressPolicy/Proofs/Config/Location.lean

What the place of a configuration file has to do with its settings.

Settings are judged when their paths have been moved to the directory of their
file.  Moving keeps a path empty only if there is no directory to move it to
(`Path.rebase_eq_empty_iff`), and of all that is judged nothing but an empty
rules path can tell (`Config.validate_congr`).  So two places lead to the same
verdict about a document, unless its rules path is empty and just one of the
places names its directory (`Config.validate_load_eq_iff`): there the empty
path has become the directory itself, and passes.
-/
import Mathlib
import EgressPolicy.Config.File

namespace EgressPolicy

/-! ### Paths -/

namespace Path

/-- The path says which directory its last name is in. -/
def inDirectory (path : String) : Bool := (parent? path).any (· ≠ "")

/-- An empty path at an empty place is all that is joined to nothing. -/
theorem join_eq_empty_iff {base path : String} : join base path = "" ↔ base = "" ∧ path = "" := by
  rw [join]
  split
  · rw [String.append_eq_empty_iff]
  · rename_i hbase
    have hne : base ≠ "" := fun h => hbase (.inl h)
    simp [String.append_eq_empty_iff, hne]

/-- Moving to a directory leaves no path empty, unless the directory has no name either. -/
theorem rebase_eq_empty_iff {base : Option String} {path : String} :
    rebase base path = "" ↔ path = "" ∧ base.any (· ≠ "") = false := by
  rcases base with - | base
  · simp [rebase]
  · by_cases hpath : isRelative path = true
    · simp [rebase, hpath, join_eq_empty_iff, and_comm]
    · have hne : path ≠ "" := by
        rintro rfl
        exact hpath (by decide)
      simp [rebase, hpath, hne]

end Path

namespace Config

/-! ### Verdicts -/

/-- The complaint about an empty rules path is made about nothing else. -/
theorem validate_eq_emptyRulesPath_iff {c : Config} :
    c.validate = .error .emptyRulesPath ↔ c.rules = "" := by
  rw [validate]
  split
  · rename_i h
    simp [h]
  · rename_i h
    refine iff_of_false ?_ h
    split
    · simp
    · split
      · simp
      · split <;> simp

/-- Of the paths, a verdict sees only whether that of the rules is empty. -/
theorem validate_congr {c d : Config} (hrules : c.rules = "" ↔ d.rules = "")
    (hcache : c.cacheSize = d.cacheSize) (hdns : c.dns = d.dns) (hlog : c.log = d.log) :
    c.validate = d.validate := by
  rw [validate, validate, hcache, hdns, hlog]
  simp only [hrules]

/-- Two places of one document lead to one verdict, if its rules path is empty
at both or at neither. -/
theorem validate_rebase_eq_iff {c : Config} {base base' : Option String} :
    (c.rebase base).validate = (c.rebase base').validate ↔
      ((c.rebase base).rules = "" ↔ (c.rebase base').rules = "") := by
  constructor
  · intro h
    rw [← validate_eq_emptyRulesPath_iff, h, validate_eq_emptyRulesPath_iff]
  · intro h
    exact validate_congr h rfl rfl rfl

/-! ### Files -/

/-- The settings as the document has them, before its place comes in. -/
def written? (content : FileContent) : Option Config :=
  content.text.toOption.bind fun text => (ofDocument text).toOption

/-- Whether there are settings does not depend on the place of the file. -/
theorem load_eq_ok_iff {path : String} {content : FileContent} {c : Config} :
    load path content = .ok c ↔
      ∃ d, written? content = some d ∧ d.rebase (Path.parent? path) = c := by
  rcases htext : content.text with fault | text
  · simp [load, written?, htext, Except.toOption]
  · rcases hdoc : ofDocument text with fault | d
    · simp [load, written?, htext, hdoc, Except.toOption]
    · simp [load, written?, htext, hdoc, Except.toOption]

/-- **The place of a document matters only where its rules path is empty.**
If a document has settings at one place, it has them at every other, and the
verdicts are the same unless the rules path is empty and exactly one of the
places names its directory.  An empty path is refused at a place that does not,
and at no other. -/
theorem validate_load_eq_iff {content : FileContent} {p : String} {cp : Config}
    (hp : load p content = .ok cp) (q : String) :
    ∃ c cq, written? content = some c ∧ load q content = .ok cq ∧
      (cp.validate = cq.validate ↔
        c.rules ≠ "" ∨ Path.inDirectory p = Path.inDirectory q) ∧
      (cp.validate = .error .emptyRulesPath ↔
        c.rules = "" ∧ Path.inDirectory p = false) := by
  obtain ⟨c, hc, rfl⟩ := load_eq_ok_iff.mp hp
  refine ⟨c, c.rebase (Path.parent? q), hc, load_eq_ok_iff.mpr ⟨c, hc, rfl⟩, ?_, ?_⟩
  · have hempty : ∀ path, (c.rebase (Path.parent? path)).rules = "" ↔
        c.rules = "" ∧ Path.inDirectory path = false := fun _ => Path.rebase_eq_empty_iff
    rw [validate_rebase_eq_iff, hempty, hempty]
    by_cases hrules : c.rules = ""
    · rcases Path.inDirectory p <;> rcases Path.inDirectory q <;> simp [hrules]
    · simp [hrules]
  · rw [validate_eq_emptyRulesPath_iff]
    exact Path.rebase_eq_empty_iff

/-- A document with a rules path is judged alike here and there. -/
theorem validate_load_eq_iff_sample :
    ∃ cp cq : Config,
      load "acl.toml" (.ok "rules = 'acl.txt'\ncache_size = 0".toUTF8) = .ok cp ∧
      load "conf/acl.toml" (.ok "rules = 'acl.txt'\ncache_size = 0".toUTF8) = .ok cq ∧
      cp.validate = .error .noCache ∧ cq.validate = .error .noCache := by
  have hp : load "acl.toml" (.ok "rules = 'acl.txt'\ncache_size = 0".toUTF8)
      = .ok { rules := "acl.txt", cacheSize := 0 } := by
    decide +kernel
  have hwritten : written? (.ok "rules = 'acl.txt'\ncache_size = 0".toUTF8)
      = some { rules := "acl.txt", cacheSize := 0 } := by
    decide +kernel
  have hverdict : ({ rules := "acl.txt", cacheSize := 0 } : Config).validate = .error .noCache := by
    decide +kernel
  obtain ⟨c, cq, hc, hq, hsame, -⟩ := validate_load_eq_iff hp "conf/acl.toml"
  obtain rfl := Option.some.inj (hwritten.symm.trans hc)
  exact ⟨_, cq, hp, hq, hverdict, (hsame.mpr (.inl (by decide))).symm.trans hverdict⟩

/-- An empty rules path is refused here and passes there. -/
theorem empty_rules_path_passes :
    load "acl.toml" (.ok "rules = ''".toUTF8) = .ok { rules := "" } ∧
    ({ rules := "" } : Config).validate = .error .emptyRulesPath ∧
    load "conf/acl.toml" (.ok "rules = ''".toUTF8) = .ok { rules := "conf/" } ∧
    ({ rules := "conf/" } : Config).validate = .ok () := by
  decide +kernel

end Config
end EgressPolicy
