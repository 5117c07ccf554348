/-
EgressPolicy/Proofs/CommandLine/Preparation.lean

What comes before the first decision.

On files that stay as they are the work of the program is a function.  Its
stages are passed one after the other, and the first that cannot be passed
fails the whole: the settings and the resolver (`prepare_of_settings`), the
rule file (`engineOf_eq`), and the country database, if there has to be one
(`exists_build_iff`).  None of them sees the destinations, which come in only
when there is an engine that has just been built (`exists_of_prepare_eq_ok`).
-/
import Mathlib
import EgressPolicy.CommandLine.Run
import EgressPolicy.Proofs.Engine.Collection
import EgressPolicy.Proofs.Text.Traversal

namespace EgressPolicy.CommandLine

open Text

variable {read : String → FileContent} {exchange : Exchange}

/-! ### Rules and database -/

/-- What an engine is made of when there are settings and rules. -/
def builderOf (c : Config) (rules : List Rule) : Builder where
  rules := rules
  defaultAction := c.defaultAction
  capacity := c.cacheSize

/-- Where there are no effects, what follows a value is done with it at once. -/
theorem bind_eq_apply {α β : Type} (x : α) (f : α → Id β) : bind (m := Id) x f = f x := rfl

theorem check_eq (path : String) :
    check (m := Id) read path
      = ((Builder.rulesOf (read path)).map fun rules => checkLines path { rules }).mapError
          .load := by
  rw [check, bind_eq_apply, Builder.loadFile]
  rcases Builder.rulesOf (read path) with error | rules <;> rfl

theorem engineOf_eq (c : Config) :
    engineOf (m := Id) read c
      = (do
        let rules ← Builder.rulesOf (read c.rules)
        (builderOf c rules).build (m := Id) (openDatabase (m := Id) read c.database) :
          Except LoadError (Engine Database)) := by
  rw [engineOf, bind_eq_apply, Builder.loadFile]
  rcases Builder.rulesOf (read c.rules) with error | rules <;> rfl

/-- There is a path to a file with a country database in it. -/
def HasDatabase (read : String → FileContent) (path : Option String) : Prop :=
  ∃ file bytes db, path = some file ∧ read file = .ok bytes ∧ Database.ofBytes? bytes = some db

theorem exists_openDatabase_iff {path : Option String} :
    (∃ db, openDatabase (m := Id) read path = .ok db) ↔ HasDatabase read path := by
  rcases path with - | file
  · exact iff_of_false (fun ⟨_, h⟩ => by cases h) (fun ⟨_, _, _, h, _⟩ => by cases h)
  · show (∃ db, databaseAt file (read file) = .ok db) ↔ _
    rw [HasDatabase]
    rcases hread : read file with fault | bytes
    · simp [databaseAt, hread]
    · simp [databaseAt, hread, mapError_eq_ok_iff, Database.ofBytes?_eq_some_iff]

/-- Rules become an engine unless they ask about a country and there is no database. -/
theorem exists_build_iff {b : Builder} {path : Option String} :
    (∃ e, b.build (m := Id) (openDatabase (m := Id) read path) = .ok e) ↔
      (b.needsDatabase = true → HasDatabase read path) := by
  rw [Builder.build_eq, ← exists_openDatabase_iff]
  split
  · rename_i hneeds
    show (∃ e, b.finish (openDatabase (m := Id) read path) = .ok e) ↔ _
    rcases openDatabase (m := Id) read path with error | db <;>
      simp [Builder.finish, Except.map, hneeds]
  · rename_i hneeds
    exact iff_of_true ⟨_, rfl⟩ fun h => absurd h hneeds

/-! ### All stages -/

theorem prepare_eq (config : String) (overrides : Overrides) :
    prepare (m := Id) read exchange config overrides
      = (do
        let c ← (settings config (read config) overrides).mapError .config
        let resolver ← (Resolver.ofSettings c.dns exchange).mapError .dns
        let e ← (engineOf (m := Id) read c).mapError .load
        return (resolver, e) : Except Failure (Resolver × Engine Database)) := by
  rw [prepare, bind_eq_apply]
  rcases settings config (read config) overrides with error | c
  · rfl
  show _ = (Resolver.ofSettings c.dns exchange).mapError Failure.dns >>= _
  rcases hresolver : Resolver.ofSettings c.dns exchange with error | resolver
  · simp only [hresolver]
    rfl
  · simp only [hresolver, bind_eq_apply]
    show _ = (engineOf (m := Id) read c).mapError Failure.load >>= _
    rcases engineOf (m := Id) read c with error | e <;> rfl

/-- With settings and a resolver it is left to make the engine. -/
theorem prepare_of_settings {config : String} {overrides : Overrides} {c : Config}
    {resolver : Resolver} (hc : settings config (read config) overrides = .ok c)
    (hresolver : Resolver.ofSettings c.dns exchange = .ok resolver) :
    prepare (m := Id) read exchange config overrides
      = (do
        let e ← (engineOf (m := Id) read c).mapError .load
        return (resolver, e) : Except Failure (Resolver × Engine Database)) := by
  rw [prepare_eq, hc]
  show (Resolver.ofSettings c.dns exchange).mapError Failure.dns >>= _ = _
  rw [hresolver]
  rfl

/-- Whatever gets ready has passed all stages, and its engine has just been built. -/
theorem exists_of_prepare_eq_ok {config : String} {overrides : Overrides} {resolver : Resolver}
    {e : Engine Database}
    (h : prepare (m := Id) read exchange config overrides = .ok (resolver, e)) :
    ∃ c rules database, settings config (read config) overrides = .ok c ∧
      Resolver.ofSettings c.dns exchange = .ok resolver ∧
      Builder.rulesOf (read c.rules) = .ok rules ∧
      e = (builderOf c rules).toEngine database := by
  rw [prepare_eq] at h
  -- stage by stage, what is ready in the end was not refused there
  obtain ⟨c, hc, h⟩ := exists_of_bind_eq_ok h
  obtain ⟨resolver', hresolver, h⟩ := exists_of_bind_eq_ok h
  obtain ⟨e', hengine, h⟩ := exists_of_bind_eq_ok h
  cases h
  rw [mapError_eq_ok_iff] at hc hresolver hengine
  rw [engineOf_eq] at hengine
  obtain ⟨rules, hrules, hbuild⟩ := exists_of_bind_eq_ok hengine
  obtain ⟨database, he⟩ := Engine.eq_toEngine_of_build hbuild
  exact ⟨c, rules, database, hc, hresolver, hrules, he⟩

/-! ### Decisions -/

/-- What an engine asks in the program. -/
def worldOf (exchange : Exchange) (resolver : Resolver) : World Database where
  resolve := resolver.resolve exchange
  country := Database.countryCode

/-- No destination is seen before everything is ready. -/
theorem judge_eq (config : String) (overrides : Overrides) (destinations : List String) :
    judge (m := Id) read exchange config overrides destinations
      = (prepare (m := Id) read exchange config overrides).map fun ready =>
          decisionLines (worldOf exchange ready.1) ready.2 destinations := by
  rw [judge, bind_eq_apply]
  rcases prepare (m := Id) read exchange config overrides with failure | ⟨resolver, e⟩ <;> rfl

/-- Where nothing is remembered yet, each line is about its destination alone. -/
theorem decisionLines_eq_map {w : World Database} {e : Engine Database}
    (hempty : e.cache.entries = []) (destinations : List String) :
    decisionLines w e destinations
      = destinations.map fun d => Decision.line d (e.uncached w d) := by
  have hworld : ∀ call ∈ destinations.map (w, ·), call.1 = w := by simp
  rw [decisionLines, Engine.run_eq_uncached hempty hworld, List.map_map, List.zipWith_map_right,
    List.zipWith_self]
  rfl

/-! ### Requests -/

/-- How the program ends where files stay as they are, and servers answer each
question in one way. -/
def outcome (read : String → FileContent) (exchange : Exchange) (args : List String) : Outcome :=
  run (m := Id) read exchange args

/-- How the program ends when a piece of work has come to an end. -/
def Outcome.ofWork : Except Failure (List String) → Outcome
  | .ok lines => done lines
  | .error failure => failed failure

/-- Of the arguments only the request counts. -/
theorem outcome_of_ofArguments {args : List String} {command : Command}
    (h : Request.ofArguments args = .run command) :
    outcome read exchange args = .ofWork (command.run (m := Id) read exchange) := by
  rw [outcome, run, h]
  rfl

variable {args : List String} {config : String} {overrides : Overrides}
  {destinations : List String}

/-- What fails before the first decision fails the program. -/
theorem outcome_of_prepare_eq_error {failure : Failure}
    (hprepare : prepare (m := Id) read exchange config overrides = .error failure)
    (h : Request.ofArguments args = .run (.judge config overrides destinations)) :
    outcome read exchange args = .failed failure := by
  rw [outcome_of_ofArguments h, Command.run, judge_eq, hprepare]
  rfl

/-- When everything is ready, no decision fails the program. -/
theorem outcome_of_prepare_eq_ok {resolver : Resolver} {e : Engine Database}
    (hprepare : prepare (m := Id) read exchange config overrides = .ok (resolver, e))
    (h : Request.ofArguments args = .run (.judge config overrides destinations)) :
    outcome read exchange args
      = .done (decisionLines (worldOf exchange resolver) e destinations) := by
  rw [outcome_of_ofArguments h, Command.run, judge_eq, hprepare]
  rfl

end EgressPolicy.CommandLine
