/-
EgressPolicy/Proofs/CommandLine/Destinations.lean

Decisions about many destinations are those about each of them.

Whether there is an engine is settled before a destination is looked at, so a
failure is the same for all destinations (`outcome_of_prepare_eq_error`), and
nothing has been written by then.  With an engine, which remembers what it did
for the destinations before, each line is still the line that the destination
has alone (`decisionLines_eq_map`).  So what is written is put together from
what is written for single destinations (`outcome_maps_destinations`).
-/
import Mathlib
import EgressPolicy.Files.Tree
import EgressPolicy.Proofs.CommandLine.Arguments
import EgressPolicy.Proofs.CommandLine.Preparation

namespace EgressPolicy.CommandLine

/-- What is on the standard output in the end: each line, and a line feed after it. -/
def Outcome.output : Outcome → String
  | done lines => String.join (lines.map (· ++ "\n"))
  | failed _ | misused => ""

theorem Outcome.output_done_singleton (line : String) : (done [line]).output = line ++ "\n" := by
  simp [output]

/-- Lines that are made one by one are written one by one. -/
theorem Outcome.output_done_map (line : String → String) (destinations : List String) :
    (done (destinations.map line)).output
      = String.join (destinations.map fun d => (done [line d]).output) := by
  simp only [output_done_singleton]
  rw [output, List.map_map]
  rfl

/-- **Deciding about destinations is a map over them, and writes all or
nothing.**  Any destinations, with a configuration file and overrides that some
command line has asked for, can be asked for one at a time.  If something fails
before the first decision, every command line with this file and these overrides
fails with just that, whatever its destinations, and writes nothing.  Otherwise
every one of them succeeds, and what it writes is what is written for each of
its destinations alone, in their order; and that is the line of a decision for
which nothing was remembered. -/
theorem outcome_maps_destinations (read : String → FileContent) (exchange : Exchange)
    {args : List String} {config : String} {overrides : Overrides} {destinations : List String}
    (h : Request.ofArguments args = .run (.judge config overrides destinations)) :
    destinations ≠ [] ∧
    (∀ d, Request.ofArguments (commandLine config overrides [d])
      = .run (.judge config overrides [d])) ∧
    ((∃ failure, prepare (m := Id) read exchange config overrides = .error failure ∧
        ∀ args' destinations',
          Request.ofArguments args' = .run (.judge config overrides destinations') →
          outcome read exchange args' = .failed failure ∧
          (outcome read exchange args').status = 1 ∧
          (outcome read exchange args').output = "") ∨
      ∃ resolver e, prepare (m := Id) read exchange config overrides = .ok (resolver, e) ∧
        (∀ args' destinations',
          Request.ofArguments args' = .run (.judge config overrides destinations') →
          (outcome read exchange args').status = 0 ∧
          (outcome read exchange args').output = String.join (destinations'.map fun d =>
            (outcome read exchange (commandLine config overrides [d])).output)) ∧
        ∀ d, (outcome read exchange (commandLine config overrides [d])).output
          = Decision.line d (e.uncached (worldOf exchange resolver) d) ++ "\n") := by
  obtain ⟨hsound, hne⟩ := Request.sound_of_ofArguments h
  have halone : ∀ d, Request.ofArguments (commandLine config overrides [d])
      = .run (.judge config overrides [d]) := by
    intro d
    exact ofArguments_commandLine hsound (List.cons_ne_nil d [])
  refine ⟨hne, halone, ?_⟩
  rcases hprepare : prepare (m := Id) read exchange config overrides with failure | ⟨resolver, e⟩
  · refine .inl ⟨failure, rfl, fun args' destinations' h' => ?_⟩
    rw [outcome_of_prepare_eq_error hprepare h']
    exact ⟨rfl, rfl, rfl⟩
  · -- the engine remembers nothing at first, so each line is about its destination alone
    have hempty : e.cache.entries = [] := by
      obtain ⟨c, rules, database, -, -, -, rfl⟩ := exists_of_prepare_eq_ok hprepare
      rfl
    have hdone : ∀ {args' destinations'},
        Request.ofArguments args' = .run (.judge config overrides destinations') →
        outcome read exchange args' = .done (destinations'.map fun d =>
          Decision.line d (e.uncached (worldOf exchange resolver) d)) := by
      intro args' destinations' h'
      rw [outcome_of_prepare_eq_ok hprepare h', decisionLines_eq_map hempty]
    refine .inr ⟨resolver, e, rfl, fun args' destinations' h' => ?_, fun d => ?_⟩
    · rw [hdone h', Outcome.output_done_map]
      refine ⟨rfl, ?_⟩
      simp only [hdone (halone _), List.map_cons, List.map_nil]
    · rw [hdone (halone d), List.map_singleton, Outcome.output_done_singleton]

/-! ### A sample -/

namespace Sample

/-- Settings with room for one decision, and a rule on one address. -/
def files : FileTree :=
  .ofFiles [("acl.toml", "rules = 'acl.txt'\ncache_size = 1\n".toUTF8),
    ("acl.txt", "block ip 10.0.0.1\n".toUTF8)]

/-- Every name has the address of the rule. -/
def exchange : Exchange := { Exchange.silent with answer := fun _ _ _ => .ok [.v4 0x0A000001#32] }

end Sample

/-- Three destinations, of which the first comes back when it has been forgotten. -/
theorem outcome_maps_destinations_sample :
    Request.ofArguments ["match", "a.test", "10.0.0.2", "a.test"]
      = .run (.judge "acl.toml" {} ["a.test", "10.0.0.2", "a.test"]) ∧
    (outcome Sample.files.read Sample.exchange ["match", "a.test", "10.0.0.2", "a.test"]).output
      = "a.test -> block (domain) addr=10.0.0.1\n10.0.0.2 -> proxy (ip) addr=10.0.0.2\n" ++
        "a.test -> block (domain) addr=10.0.0.1\n" := by
  have h : Request.ofArguments ["match", "a.test", "10.0.0.2", "a.test"]
      = .run (.judge "acl.toml" {} ["a.test", "10.0.0.2", "a.test"]) := by
    decide +kernel
  have hhost : outcome Sample.files.read Sample.exchange (commandLine "acl.toml" {} ["a.test"])
      = .done ["a.test -> block (domain) addr=10.0.0.1"] := by
    decide +kernel
  have hip : outcome Sample.files.read Sample.exchange (commandLine "acl.toml" {} ["10.0.0.2"])
      = .done ["10.0.0.2 -> proxy (ip) addr=10.0.0.2"] := by
    decide +kernel
  refine ⟨h, ?_⟩
  obtain ⟨-, halone, ⟨failure, -, hfailed⟩ | ⟨resolver, e, -, hdone, -⟩⟩ :=
    outcome_maps_destinations Sample.files.read Sample.exchange h
  · have hcontra := (hfailed _ _ (halone "a.test")).1
    rw [hhost] at hcontra
    cases hcontra
  · rw [(hdone _ _ h).2]
    simp only [List.map_cons, List.map_nil, hhost, hip]
    decide +kernel

end EgressPolicy.CommandLine
