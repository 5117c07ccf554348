/-
EgressPolicy/Proofs/Engine/Equipment.lean

The country database is there whenever it is needed, and only then.

Opening the database is an effect, so that it happens once is not a matter of
the value that comes out.  `build_eq` says what there is to say in any monad:
building runs the opening, once and with nothing around it, if a rule asks
about a country, and does nothing at all otherwise.  With a counter in the
monad this counts the openings (`run_build_counted`).

Which rules are looked at is settled by what was done to the builder
(`rules_foldl_perform`).  An engine that comes out of it is `Equipped`, and
nothing that an equipped engine asks is `unanswerable`, whatever is in its
cache and whatever the world is like (`Equipped.unanswerable_notMem_judge`).
-/
import Mathlib
import EgressPolicy.Proofs.Engine.Accounting
import EgressPolicy.Proofs.Engine.History

namespace EgressPolicy

variable {γ : Type}

/-! ### What is done to a builder -/

namespace Builder

/-- A step on the way to an engine. -/
inductive Operation where
  | addRule (rule : Rule)
  | addRules (rules : List Rule)
  | loadFile (content : FileContent)
  | setDefault (action : Action)
  | setCapacity (capacity : Nat)

/-- The builder after a step.  A file that cannot be used leaves it as it was. -/
def perform (b : Builder) : Operation → Builder
  | .addRule rule => b.addRule rule
  | .addRules rules => b.addRules rules
  | .loadFile content =>
    match b.loadFile content with
    | .ok b' => b'
    | .error _ => b
  | .setDefault action => b.setDefault action
  | .setCapacity capacity => b.setCapacity capacity

/-- The rules that a step brings in. -/
def Operation.rules : Operation → List Rule
  | addRule rule => [rule]
  | addRules rules => rules
  | loadFile content =>
    match rulesOf content with
    | .ok rules => rules
    | .error _ => []
  | setDefault _ | setCapacity _ => []

/-- All rules that some steps bring in, in order. -/
def collected (operations : List Operation) : List Rule := operations.flatMap Operation.rules

theorem rules_perform (b : Builder) (operation : Operation) :
    (b.perform operation).rules = b.rules ++ operation.rules := by
  cases operation with
  | addRule rule => rfl
  | addRules rules => rfl
  | loadFile content =>
    rw [perform, loadFile, Operation.rules]
    rcases rulesOf content with error | rules
    · exact (List.append_nil b.rules).symm
    · rfl
  | setDefault action => exact (List.append_nil b.rules).symm
  | setCapacity capacity => exact (List.append_nil b.rules).symm

/-- A builder has the rules that were brought in, and no others. -/
theorem rules_foldl_perform (b : Builder) (operations : List Operation) :
    (operations.foldl perform b).rules = b.rules ++ collected operations := by
  induction operations generalizing b with
  | nil => exact (List.append_nil b.rules).symm
  | cons operation operations ih =>
    rw [List.foldl_cons, ih, rules_perform, List.append_assoc]
    rfl

/-! ### How often the database is opened -/

/-- What becomes of a builder when the opening has come to an end. -/
def finish (b : Builder) (opened : Except LoadError γ) : Except LoadError (Engine γ) :=
  opened.map fun database => b.toEngine (some database)

/-- Building is opening the database and nothing else, or else nothing. -/
theorem build_eq {m : Type → Type} [Monad m] [LawfulMonad m] (b : Builder)
    (openDatabase : m (Except LoadError γ)) :
    b.build openDatabase
      = if b.needsDatabase then b.finish <$> openDatabase else pure (.ok (b.toEngine none)) := by
  rw [build]
  split
  · rw [map_eq_pure_bind]
    refine bind_congr fun opened => ?_
    rcases opened with error | database <;> rfl
  · rfl

/-- Opening a database, with a count of the openings. -/
def counted {m : Type → Type} [Monad m] (openDatabase : m (Except LoadError γ)) :
    StateT Nat m (Except LoadError γ) :=
  fun n => (fun opened => (opened, n + 1)) <$> openDatabase

/-- The database is opened once if a rule asks for it, and never otherwise. -/
theorem run_build_counted {m : Type → Type} [Monad m] [LawfulMonad m] (b : Builder)
    (openDatabase : m (Except LoadError γ)) (n : Nat) :
    (b.build (counted openDatabase)).run n
      = if b.needsDatabase then (fun opened => (b.finish opened, n + 1)) <$> openDatabase
        else pure (.ok (b.toEngine none), n) := by
  rw [build_eq]
  split
  · rw [StateT.run_map]
    show (fun p => (b.finish p.1, p.2)) <$> (fun opened => (opened, n + 1)) <$> openDatabase = _
    rw [Functor.map_map]
  · rfl

theorem finish_eq_error_iff {b : Builder} {opened : Except LoadError γ} {error : LoadError} :
    b.finish opened = .error error ↔ opened = .error error := by
  rcases opened with error' | database <;> simp [finish, Except.map]

end Builder

/-! ### Questions without an answer -/

/-- A rule whose country can be looked up asks nothing that has no answer. -/
theorem Rule.unanswerable_notMem_probe {r : Rule} {reader : Option CountryReader}
    (h : r.country?.isSome → reader.isSome) (s : Subject) (ip : Ip) :
    Question.unanswerable ip ∉ (r.probe reader s).2 := by
  rcases hcountry : r.country? with - | code
  · rw [probe_snd_of_country?_eq_none hcountry]
    exact List.not_mem_nil
  · rw [hcountry] at h
    obtain ⟨read, rfl⟩ := Option.isSome_iff_exists.mp (h rfl)
    rw [probe]
    split
    · exact List.not_mem_nil
    · rcases s.ip with - | addr
      · exact List.not_mem_nil
      · rcases r.condition <;> simp [Condition.probe]

theorem unanswerable_notMem_scan {reader : Option CountryReader} {rules : List Rule}
    (h : ∀ r ∈ rules, r.country?.isSome → reader.isSome) (s : Subject) (ip : Ip) :
    Question.unanswerable ip ∉ (scan reader s rules).2 := by
  rw [scan_snd, List.mem_flatMap]
  rintro ⟨r, hr, hmem⟩
  exact Rule.unanswerable_notMem_probe (h r (List.mem_of_mem_take hr)) s ip hmem

namespace Engine

/-- Where a rule asks about a country, there is a reader to ask, in every world. -/
theorem Equipped.isSome_reader {e : Engine γ} (h : e.Equipped) (w : World γ) :
    ∀ r ∈ e.rules, r.country?.isSome → (e.reader w).isSome := by
  intro r hr hcountry
  rw [reader, Option.isSome_map]
  exact h r hr hcountry

/-- No call of an equipped engine asks what has no answer, whatever is remembered. -/
theorem Equipped.unanswerable_notMem_judge {e : Engine γ} (h : e.Equipped) (w : World γ)
    (s : String) (ip : Ip) : Question.unanswerable ip ∉ (e.judge w s).questions := by
  have hlookups : Question.unanswerable ip ∉ lookups s := by
    rw [lookups]
    rcases ZonedIp.ofString? s with - | addr <;> simp
  rcases hfind : e.cache.find? (Destination.ofString s).key with - | a
  · rw [questions_of_none hfind, List.mem_append, not_or]
    exact ⟨hlookups, unanswerable_notMem_scan (h.isSome_reader w) _ ip⟩
  · rwa [questions_of_some hfind]

/-- No run of an equipped engine asks what has no answer. -/
theorem Equipped.unanswerable_notMem_asked {e : Engine γ} (h : e.Equipped) (c : Cache)
    (calls : List (World γ × String)) (ip : Ip) :
    Question.unanswerable ip ∉ ({ e with cache := c } : Engine γ).asked calls := by
  induction calls generalizing c with
  | nil => exact List.not_mem_nil
  | cons call calls ih =>
    obtain ⟨w, s⟩ := call
    -- a call changes nothing but the cache, so the engine stays equipped
    obtain ⟨c', hengine, -⟩ := e.exists_cache_of_judge (fun _ _ h => h : c.Within c.entries) w s
    rw [asked, List.mem_append, not_or]
    refine ⟨Equipped.unanswerable_notMem_judge (e := { e with cache := c }) h w s ip, ?_⟩
    rw [hengine]
    exact ih c'

/-- The database and the rules fit each other: it is there exactly if a rule
asks about a country, and no call, with anything at hand, and no run ever asks
what has no answer. -/
structure Fit (e : Engine γ) : Prop where
  isSome_database : e.database.isSome = true ↔ ∃ r ∈ e.rules, r.country?.isSome
  isSome_reader : ∀ w : World γ, ∀ r ∈ e.rules, r.country?.isSome → (e.reader w).isSome
  judgement : ∀ (t : Turn γ) (ip : Ip), Question.unanswerable ip ∉ (t.judgement e).questions
  asked : ∀ (calls : List (World γ × String)) (ip : Ip), Question.unanswerable ip ∉ e.asked calls

theorem fit_of_isSome_database {e : Engine γ}
    (h : e.database.isSome = true ↔ ∃ r ∈ e.rules, r.country?.isSome) : e.Fit := by
  have he : e.Equipped := fun r hr hcountry => h.mpr ⟨r, hr, hcountry⟩
  exact ⟨h, he.isSome_reader,
    fun t ip => Equipped.unanswerable_notMem_judge (e := { e with cache := t.atHand }) he _ _ ip,
    fun calls ip => he.unanswerable_notMem_asked e.cache calls ip⟩

end Engine

namespace Builder

theorem needsDatabase_eq_true_iff {b : Builder} :
    b.needsDatabase = true ↔ ∃ r ∈ b.rules, r.country?.isSome := by
  rw [needsDatabase, List.any_eq_true]

/-- What is built fits together. -/
theorem fit_of_run_build {b : Builder} {opened : Except LoadError γ} {e : Engine γ} {n : Nat}
    (h : ((b.build (counted (m := Id) opened)).run n).1 = .ok e) :
    e.rules = b.rules ∧ e.Fit := by
  rw [run_build_counted] at h
  split at h
  · rename_i hneeds
    rcases opened with error | database
    · cases h
    · cases h
      exact ⟨rfl, Engine.fit_of_isSome_database
        (iff_of_true rfl (needsDatabase_eq_true_iff.mp hneeds))⟩
  · rename_i hneeds
    cases h
    exact ⟨rfl, Engine.fit_of_isSome_database
      (iff_of_false Bool.false_ne_true fun hr => hneeds (needsDatabase_eq_true_iff.mpr hr))⟩

/-- An engine from a file is one from a builder that the file was loaded into. -/
theorem exists_run_build_of_ofFile {content : FileContent} {opened : Except LoadError γ}
    {e : Engine γ} {n : Nat}
    (h : ((Engine.ofFile content (counted (m := Id) opened)).run n).1 = .ok e) :
    ∃ b : Builder, ((b.build (counted (m := Id) opened)).run n).1 = .ok e := by
  rw [Engine.ofFile] at h
  split at h
  · cases h
  · exact ⟨_, h⟩

/-- **A country database is opened exactly when it is needed, and is there
whenever it is asked.**  Whatever is done to a fresh builder, building opens the
database once if one of the rules collected so far asks about a country, and
not at all otherwise; it fails only with the error that the opening failed
with; and an engine that is built, or made from a file, has a database exactly
if it has a rule on a country, and never asks for one that is not there. -/
theorem database_opened_as_needed (operations : List Operation) (opened : Except LoadError γ)
    (n : Nat) :
    let needed := (collected operations).any fun r => r.country?.isSome
    let built := ((operations.foldl perform {}).build (counted (m := Id) opened)).run n
    built.2 = n + (if needed then 1 else 0) ∧
    (∀ error, built.1 = .error error ↔ needed = true ∧ opened = .error error) ∧
    (∀ e, built.1 = .ok e → e.rules = collected operations ∧ e.Fit) ∧
    ∀ content e, ((Engine.ofFile content (counted (m := Id) opened)).run n).1 = .ok e → e.Fit := by
  intro needed built
  have hrules : (operations.foldl perform {}).rules = collected operations :=
    rules_foldl_perform {} operations
  have hneeds : (operations.foldl perform {}).needsDatabase = needed := by
    rw [needsDatabase, hrules]
  have hbuilt : built = if needed then (finish (operations.foldl perform {}) opened, n + 1)
      else (.ok ((operations.foldl perform {}).toEngine none), n) := by
    rw [← hneeds]
    exact run_build_counted (m := Id) _ opened n
  refine ⟨?_, fun error => ?_, fun e he => ?_, fun content e he => ?_⟩
  · rw [hbuilt]
    split <;> rfl
  · rw [hbuilt]
    split
    · rename_i hneeded
      exact finish_eq_error_iff.trans ⟨fun h => ⟨hneeded, h⟩, And.right⟩
    · rename_i hneeded
      exact iff_of_false (fun h => by cases h) fun h => hneeded h.1
  · obtain ⟨hsame, hfit⟩ := fit_of_run_build he
    exact ⟨hsame.trans hrules, hfit⟩
  · obtain ⟨b, hb⟩ := exists_run_build_of_ofFile he
    exact (fit_of_run_build hb).2

end Builder

/-- A file with one rule, on a country. -/
def Sample.ruleFile : FileContent := .ok "# Germany\nblock country DE\n".toUTF8

/-- What an engine of that file is built from. -/
def Sample.fileBuilder : Builder where
  rules := [⟨.block, .country "DE"⟩]

/-- The file is loaded, another one is not there, and a rule is added. -/
def Sample.operations : List Builder.Operation :=
  [.setCapacity 2, .loadFile ruleFile, .loadFile (.error .missing), .addRule ⟨.direct, .all⟩]

/-- The sample's database is opened once, for the rule from the file.  If that
fails there is no engine, and otherwise it is there when it is asked. -/
theorem Builder.database_opened_as_needed_sample :
    let b := Sample.operations.foldl perform {}
    ((b.build (counted (m := Id) (.ok ()))).run 0).2 = 1 ∧
    ((b.build (counted (m := Id) (.error (.database "gone") : Except LoadError Unit))).run 0).1
      = .error (.database "gone") ∧
    (b.toEngine (some ())).Fit ∧ (Sample.fileBuilder.toEngine (some ())).Fit := by
  obtain ⟨hcount, -, hfit, hfile⟩ := database_opened_as_needed Sample.operations (.ok ()) 0
  obtain ⟨-, herror, -, -⟩ := database_opened_as_needed Sample.operations
    (.error (.database "gone") : Except LoadError Unit) 0
  have hneeded : ((collected Sample.operations).any fun r => r.country?.isSome) = true := by
    decide +kernel
  have hrules : rulesOf Sample.ruleFile = .ok Sample.fileBuilder.rules := by decide +kernel
  rw [if_pos hneeded] at hcount
  refine ⟨hcount, (herror _).mpr ⟨hneeded, rfl⟩, (hfit _ ?_).2, hfile Sample.ruleFile _ ?_⟩
  · rw [run_build_counted, if_pos (by decide +kernel)]
    rfl
  · rw [Engine.ofFile, loadFile, hrules]
    rfl

end EgressPolicy
