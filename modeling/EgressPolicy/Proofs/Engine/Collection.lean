/-
EgressPolicy/Proofs/Engine/Collection.lean

What a builder has collected after some steps.

Of a file it is said without the reader what there is in it: the rules of its
lines (`FileContent.HoldsRules`), or a reason why it has none
(`FileContent.Unusable`), of which a line that is no rule is one, however many
good lines stand in front of it.  These two are all that loading can come to
(`rulesOf_eq_ok_iff`, `rulesOf_eq_error_iff`), so a step contributes all its
rules or leaves the builder as it was.

The run follows from the step: the rules are those of the contributions, one
after the other (`rules_foldl_perform`), and a setting is the one that was set
last (`setting_foldl_perform`).  What is built evaluates these rules, in this
order, with this default (`collects_all_or_nothing`).
-/
import Mathlib
import EgressPolicy.Proofs.Engine.Equipment
import EgressPolicy.Proofs.Engine.Transparency
import EgressPolicy.Proofs.Rule.Lines

namespace EgressPolicy

variable {γ : Type}

/-! ### What there is in a file -/

/-- The file is text, and these are the rules of its lines. -/
def FileContent.HoldsRules (content : FileContent) (rules : List Rule) : Prop :=
  ∃ text, content.text = .ok text ∧
    List.Forall₂ (fun l r => Rule.parse l.text = .ok r) (RuleFile.ruleLines text) rules

/-- Why a file has no rules to offer. -/
inductive FileContent.Unusable (content : FileContent) : LoadError → Prop
  /-- There are no bytes. -/
  | unread {fault : FileFault} (h : content = .error fault) : Unusable content (.file fault)
  /-- The bytes are no text. -/
  | notText {bytes : ByteArray} (h : content = .ok bytes) (htext : String.fromUTF8? bytes = none) :
      Unusable content (.file .notUtf8)
  /-- After good lines, or none, there is a bad one. -/
  | badLine {text : String} {good rest : List RuleFile.NumberedLine} {bad : RuleFile.NumberedLine}
      {cause : RuleError} (htext : content.text = .ok text)
      (hlines : RuleFile.ruleLines text = good ++ bad :: rest)
      (hgood : ∀ l ∈ good, ∃ r, Rule.parse l.text = .ok r)
      (hbad : Rule.parse bad.text = .error cause) : Unusable content (.line ⟨bad.number, cause⟩)

theorem FileContent.text_eq_error_iff {content : FileContent} {fault : FileFault} :
    content.text = .error fault ↔
      content = .error fault ∨
        fault = .notUtf8 ∧ ∃ bytes, content = .ok bytes ∧ String.fromUTF8? bytes = none := by
  rcases content with fault' | bytes
  · simp [text]
  · rcases h : String.fromUTF8? bytes with - | s
    · simp [text, h, eq_comm]
    · simp [text, h]

namespace Builder

theorem rulesOf_eq_ok_iff {content : FileContent} {rules : List Rule} :
    rulesOf content = .ok rules ↔ content.HoldsRules rules := by
  rw [rulesOf, FileContent.HoldsRules]
  rcases content.text with fault | text
  · simp
  · rcases h : RuleFile.parse text with e | rules' <;> simp [h, ← RuleFile.parse_eq_ok_iff]

theorem rulesOf_eq_error_iff {content : FileContent} {error : LoadError} :
    rulesOf content = .error error ↔ content.Unusable error := by
  constructor
  · intro h
    rw [rulesOf] at h
    rcases htext : content.text with fault | text
    · simp only [htext, Except.error.injEq] at h
      subst h
      rcases FileContent.text_eq_error_iff.mp htext with hunread | ⟨rfl, bytes, hbytes, hnone⟩
      · exact .unread hunread
      · exact .notText hbytes hnone
    · rcases hparse : RuleFile.parse text with e | rules
      · simp only [htext, hparse, Except.error.injEq] at h
        subst h
        obtain ⟨good, bad, rest, hlines, hgood, hbad, hnumber⟩ :=
          RuleFile.parse_eq_error_iff.mp hparse
        obtain ⟨number, cause⟩ := e
        obtain rfl : bad.number = number := hnumber
        exact .badLine htext hlines hgood hbad
      · simp only [htext, hparse] at h
        cases h
  · intro h
    cases h with
    | unread h => rw [h]; rfl
    | notText h htext => simp [rulesOf, FileContent.text, h, htext]
    | @badLine text good rest bad cause htext hlines hgood hbad =>
      have hparse : RuleFile.parse text = .error ⟨bad.number, cause⟩ :=
        RuleFile.parse_eq_error_iff.mpr ⟨good, bad, rest, hlines, hgood, hbad, rfl⟩
      simp [rulesOf, htext, hparse]

/-! ### Steps -/

theorem loadFile_eq_error_iff {b : Builder} {content : FileContent} {error : LoadError} :
    b.loadFile content = .error error ↔ content.Unusable error := by
  rw [← rulesOf_eq_error_iff, loadFile]
  rcases rulesOf content with error' | rules <;> simp [Except.map]

/-- A file that cannot be used changes nothing. -/
theorem perform_loadFile_of_unusable {content : FileContent} {error : LoadError}
    (h : content.Unusable error) (b : Builder) : b.perform (.loadFile content) = b := by
  rw [perform, loadFile_eq_error_iff.mpr h]

/-- What a step contributes to the rules. -/
inductive Operation.Contributes : Operation → List Rule → Prop
  | rule (r : Rule) : Contributes (addRule r) [r]
  | rules (rs : List Rule) : Contributes (addRules rs) rs
  /-- A file contributes all its rules. -/
  | file {content : FileContent} {rs : List Rule} (h : content.HoldsRules rs) :
      Contributes (loadFile content) rs
  /-- It contributes none if it cannot be used. -/
  | nothing {content : FileContent} {error : LoadError} (h : content.Unusable error) :
      Contributes (loadFile content) []
  | default (a : Action) : Contributes (setDefault a) []
  | capacity (n : Nat) : Contributes (setCapacity n) []

theorem Operation.contributes_iff {o : Operation} {rules : List Rule} :
    o.Contributes rules ↔ o.rules = rules := by
  constructor
  · intro h
    cases h with
    | rule | rules | default | capacity => rfl
    | file h => rw [Operation.rules, rulesOf_eq_ok_iff.mpr h]
    | nothing h => rw [Operation.rules, rulesOf_eq_error_iff.mpr h]
  · rintro rfl
    cases o with
    | addRule r => exact .rule r
    | addRules rs => exact .rules rs
    | setDefault a => exact .default a
    | setCapacity n => exact .capacity n
    | loadFile content =>
      rw [Operation.rules]
      rcases h : rulesOf content with error | rules
      · exact .nothing (rulesOf_eq_error_iff.mp h)
      · exact .file (rulesOf_eq_ok_iff.mp h)

/-- In one way only can steps be given what they contribute. -/
theorem forall₂_contributes_iff {operations : List Operation} {parts : List (List Rule)} :
    List.Forall₂ Operation.Contributes operations parts ↔
      operations.map Operation.rules = parts := by
  -- contributing is a function of the step
  have hrel : Operation.Contributes = fun o rules => o.rules = rules := by
    funext o rules
    exact propext Operation.contributes_iff
  rw [hrel, ← List.forall₂_map_left_iff (R := Eq), List.forall₂_eq_eq_eq]

/-- The default that a step sets. -/
def Operation.default? : Operation → Option Action
  | setDefault action => some action
  | _ => none

/-- The room that a step sets. -/
def Operation.capacity? : Operation → Option Nat
  | setCapacity capacity => some capacity
  | _ => none

theorem defaultAction_perform (b : Builder) (o : Operation) :
    (b.perform o).defaultAction = o.default?.getD b.defaultAction := by
  cases o with
  | loadFile content =>
    rw [perform, loadFile]
    rcases rulesOf content with error | rules <;> rfl
  | _ => rfl

theorem capacity_perform (b : Builder) (o : Operation) :
    (b.perform o).capacity = o.capacity?.getD b.capacity := by
  cases o with
  | loadFile content =>
    rw [perform, loadFile]
    rcases rulesOf content with error | rules <;> rfl
  | _ => rfl

/-! ### Runs -/

/-- A setting that each step sets or leaves alone is the one that was set last. -/
theorem setting_foldl_perform {α : Type} {setting : Builder → α} {set? : Operation → Option α}
    (hstep : ∀ b o, setting (b.perform o) = (set? o).getD (setting b)) (b : Builder)
    (operations : List Operation) :
    setting (operations.foldl perform b) = (operations.filterMap set?).getLastD (setting b) := by
  induction operations generalizing b with
  | nil => rfl
  | cons o operations ih =>
    rw [List.foldl_cons, ih, hstep, List.filterMap_cons]
    rcases set? o with - | a
    · rfl
    · -- what the first step sets counts only if no later step sets anything
      rw [List.getLastD_cons]
      rfl

/-- The rules are those of the contributions, one after the other. -/
theorem rules_eq_iff_contributes {operations : List Operation} {rules : List Rule} :
    (operations.foldl perform {}).rules = rules ↔
      ∃ parts, List.Forall₂ Operation.Contributes operations parts ∧ parts.flatten = rules := by
  simp only [forall₂_contributes_iff, exists_eq_left']
  rw [rules_foldl_perform, collected, List.flatMap]
  exact Iff.rfl

end Builder

/-! ### Engines -/

/-- In a world that stays as it is, each call of a run decides by the first of
`rules` that covers its destination, and by `fallback` if none does. -/
def Engine.Evaluates (e : Engine γ) (rules : List Rule) (fallback : Action) : Prop :=
  ∀ (w : World γ) (destinations : List String),
    e.run (destinations.map fun s => (w, s))
      = destinations.map (uncachedDecision rules fallback (e.reader w) w.resolve)

namespace Builder

theorem evaluates_toEngine (b : Builder) (database : Option γ) :
    (b.toEngine database).Evaluates b.rules b.defaultAction := by
  intro w destinations
  have hworld : ∀ call ∈ destinations.map fun s => (w, s), call.1 = w := by simp
  rw [Engine.run_eq_uncached rfl hworld, List.map_map]
  rfl

/-- A builder becomes an engine unless the database that it needs cannot be opened. -/
theorem build_eq_error_or (b : Builder) (opened : Except LoadError γ) :
    (∃ error, opened = .error error ∧ b.build (m := Id) opened = .error error) ∨
      ∃ database, b.build (m := Id) opened = .ok (b.toEngine database) := by
  rw [build_eq]
  split
  · rcases opened with error | database
    · exact .inl ⟨error, rfl, rfl⟩
    · exact .inr ⟨some database, rfl⟩
  · exact .inr ⟨none, rfl⟩

/-- **A builder collects all of a file or nothing, and keeps the order of the
steps.**  A file is refused exactly if it is unusable, and changes nothing
then.  After any steps the rules are those of the contributions in the order of
the steps, and default and capacity are the ones that were set last.  What is
built from that evaluates exactly these rules in this order with this default;
nothing is built only if the database is asked for and cannot be opened. -/
theorem collects_all_or_nothing (operations : List Operation) (opened : Except LoadError γ) :
    let b := operations.foldl perform {}
    (∀ (b₀ : Builder) (content : FileContent) (error : LoadError),
      (b₀.loadFile content = .error error ↔ content.Unusable error) ∧
      (content.Unusable error → b₀.perform (.loadFile content) = b₀)) ∧
    (∀ rules, b.rules = rules ↔
      ∃ parts, List.Forall₂ Operation.Contributes operations parts ∧ parts.flatten = rules) ∧
    b.defaultAction = (operations.filterMap Operation.default?).getLastD .proxy ∧
    b.capacity = (operations.filterMap Operation.capacity?).getLastD 1024 ∧
    ((∃ error, opened = .error error ∧ b.build (m := Id) opened = .error error) ∨
      ∃ e, b.build (m := Id) opened = .ok e ∧ e.rules = b.rules ∧
        e.defaultAction = b.defaultAction ∧ e.cache = ⟨b.capacity, []⟩ ∧
        e.Evaluates b.rules b.defaultAction) := by
  intro b
  refine ⟨fun b₀ content error => ⟨loadFile_eq_error_iff, fun h => ?_⟩, fun rules => ?_, ?_, ?_, ?_⟩
  · exact perform_loadFile_of_unusable h b₀
  · exact rules_eq_iff_contributes
  · exact setting_foldl_perform defaultAction_perform {} operations
  · exact setting_foldl_perform capacity_perform {} operations
  · rcases b.build_eq_error_or opened with herror | ⟨database, hbuilt⟩
    · exact .inl herror
    · exact .inr ⟨_, hbuilt, rfl, rfl, rfl, b.evaluates_toEngine database⟩

end Builder

/-! ### A sample -/

namespace Sample

/-- Two good lines, and a third one that is none. -/
def spoiledFile : FileContent := .ok "block all\n\nproxy all\nnope\n".toUTF8

/-- Every way in which a file can be unusable, before and after one that is not. -/
def steps : List Builder.Operation :=
  [.setDefault .block, .addRules [⟨.direct, .domain "a.test"⟩], .loadFile spoiledFile,
   .loadFile ruleFile, .loadFile (.error .missing), .loadFile (.ok ⟨#[0xFF]⟩), .setDefault .direct,
   .addRule ⟨.proxy, .all⟩]

end Sample

/-- Nothing of the spoiled file is left, and the other steps are complete. -/
theorem Builder.collects_all_or_nothing_sample :
    let b := Sample.steps.foldl perform {}
    (∀ b₀ : Builder, b₀.loadFile Sample.spoiledFile = .error (.line ⟨4, .tooFewFields 1⟩) ∧
      b₀.perform (.loadFile Sample.spoiledFile) = b₀) ∧
    b.rules = [⟨.direct, .domain "a.test"⟩, ⟨.block, .country "DE"⟩, ⟨.proxy, .all⟩] ∧
    b.defaultAction = .direct ∧ b.capacity = 1024 ∧
    ∃ e, b.build (m := Id) (.ok ()) = .ok e ∧ e.Evaluates b.rules .direct := by
  obtain ⟨hload, hrules, hdefault, hcapacity, hbuilt⟩ :=
    collects_all_or_nothing Sample.steps (.ok () : Except LoadError Unit)
  have hspoiled : Sample.spoiledFile.Unusable (.line ⟨4, .tooFewFields 1⟩) :=
    rulesOf_eq_error_iff.mp (by decide +kernel)
  have hfile : Sample.ruleFile.HoldsRules [⟨.block, .country "DE"⟩] :=
    rulesOf_eq_ok_iff.mp (by decide +kernel)
  have hgarbled : FileContent.Unusable (.ok ⟨#[0xFF]⟩) (.file .notUtf8) :=
    rulesOf_eq_error_iff.mp (by decide +kernel)
  have hparts : List.Forall₂ Operation.Contributes Sample.steps
      [[], [⟨.direct, .domain "a.test"⟩], [], [⟨.block, .country "DE"⟩], [], [], [],
        [⟨.proxy, .all⟩]] :=
    .cons (.default _) (.cons (.rules _) (.cons (.nothing hspoiled) (.cons (.file hfile)
      (.cons (.nothing (.unread rfl)) (.cons (.nothing hgarbled) (.cons (.default _)
        (.cons (.rule _) .nil)))))))
  refine ⟨fun b₀ => ?_, (hrules _).mpr ⟨_, hparts, rfl⟩, hdefault, hcapacity, ?_⟩
  · obtain ⟨hrefused, hunchanged⟩ := hload b₀ Sample.spoiledFile (.line ⟨4, .tooFewFields 1⟩)
    exact ⟨hrefused.mpr hspoiled, hunchanged hspoiled⟩
  · rcases hbuilt with ⟨error, h, -⟩ | ⟨e, he, -, hsame, -, heval⟩
    · cases h
    · exact ⟨e, he, heval⟩

end EgressPolicy
