/-
EgressPolicy/Proofs/CommandLine/Arguments.lean

Which requests for decisions a command line can make.

All that reading one argument can do is to take up operands, or one option
with a value, which is empty only where the option allows it
(`exists_step_of_parseArguments`).  So what has been read keeps an invariant,
`Parsed.Valued`, and no request has an empty path in it.

Conversely `commandLine` writes a request out: each option in one argument,
with its value after an equals sign, and the destinations behind two dashes,
where nothing is taken for an option.  It reads back as that request
(`ofArguments_commandLine`).
-/
import Mathlib
import EgressPolicy.CommandLine.Request
import EgressPolicy.Proofs.Text.Cut
import EgressPolicy.Proofs.Text.Traversal

namespace EgressPolicy.CommandLine

variable {specs : List OptionSpec} {takesOperands : Bool}

/-! ### What one argument does -/

/-- One more thing has been read: operands, or an option with a value. -/
inductive Parsed.Step (specs : List OptionSpec) (p : Parsed) : Parsed → Prop
  | operands (operands : List String) : Step specs p { p with operands := p.operands ++ operands }
  | option {spec : OptionSpec} (hspec : spec ∈ specs) {value : String}
      (hvalue : value = "" → spec.mayBeEmpty = true) :
      Step specs p { p with options := p.options ++ [(spec.name, value)] }

theorem Parsed.step_of_withOption {p p' : Parsed} {spec : OptionSpec} {value : String}
    (h : p.withOption spec value = .ok p') (hspec : spec ∈ specs) : p.Step specs p' := by
  rw [withOption] at h
  split at h
  · cases h
  · rename_i hcond
    cases h
    exact .option hspec fun hempty => by_contra fun hnot => hcond (.inr ⟨hempty, hnot⟩)

theorem Parsed.step_of_withOperands {p p' : Parsed} {operands : List String}
    (h : p.withOperands takesOperands operands = .ok p') : p.Step specs p' := by
  rw [withOperands] at h
  split at h
  · cases h
    exact .operands operands
  · cases h

/-- An option that is taken up is a step, and the rest is accepted after that. -/
theorem exists_step_of_withOption {test : OptionSpec → Bool} {spec : OptionSpec} {value : String}
    {args : List String} {p p' : Parsed} (hfind : specs.find? test = some spec)
    (h : p.withOption spec value >>= parseArguments specs takesOperands args = .ok p') :
    ∃ p₁, p.Step specs p₁ ∧ parseArguments specs takesOperands args p₁ = .ok p' := by
  obtain ⟨p₁, hwith, hrest⟩ := Text.exists_of_bind_eq_ok h
  exact ⟨p₁, Parsed.step_of_withOption hwith (List.mem_of_find?_eq_some hfind), hrest⟩

/-- If arguments are accepted, the first of them, perhaps with the one after
it, is a step, and the rest is accepted after that. -/
theorem exists_step_of_parseArguments {arg : String} {args : List String} {p p' : Parsed}
    (h : parseArguments specs takesOperands (arg :: args) p = .ok p') :
    ∃ p₁ rest, p.Step specs p₁ ∧ rest.length ≤ args.length ∧
      parseArguments specs takesOperands rest p₁ = .ok p' := by
  rw [parseArguments] at h
  split at h
  case h_1 =>
    obtain ⟨p₁, hwith, hrest⟩ := Text.exists_of_bind_eq_ok h
    exact ⟨p₁, args, Parsed.step_of_withOperands hwith, le_rfl, hrest⟩
  case h_2 => exact ⟨p', [], Parsed.step_of_withOperands h, Nat.zero_le _, rfl⟩
  -- a name or a letter alone has its value in the next argument
  case h_5 | h_9 =>
    beta_reduce at h
    split at h
    · rename_i hfind
      split at h
      · obtain ⟨p₁, hstep, hrest⟩ := exists_step_of_withOption hfind h
        exact ⟨p₁, _, hstep, Nat.le_succ _, hrest⟩
      · cases h
    · cases h
  -- otherwise the value is in the same argument
  case h_6 | h_10 | h_11 =>
    beta_reduce at h
    split at h
    · cases h
    · rename_i hfind
      obtain ⟨p₁, hstep, hrest⟩ := exists_step_of_withOption hfind h
      exact ⟨p₁, args, hstep, le_rfl, hrest⟩
  -- the version and the help end the reading
  all_goals cases h

/-! ### What has been read -/

/-- No option has an empty value, unless it may. -/
def Parsed.Valued (specs : List OptionSpec) (p : Parsed) : Prop :=
  ∀ name, (name, "") ∈ p.options → ∃ spec ∈ specs, spec.name = name ∧ spec.mayBeEmpty = true

theorem Parsed.Step.valued {p p' : Parsed} (h : p.Step specs p') (hp : p.Valued specs) :
    p'.Valued specs := by
  cases h with
  | operands => exact hp
  | @option spec hspec value hvalue =>
    intro name hmem
    rcases List.mem_append.mp hmem with hmem | hmem
    · exact hp name hmem
    · obtain ⟨rfl, rfl⟩ := Prod.mk.inj (List.mem_singleton.mp hmem)
      exact ⟨spec, hspec, rfl, hvalue rfl⟩

/-- The invariant is kept by all arguments together. -/
theorem valued_of_parseArguments {args : List String} {p p' : Parsed}
    (h : parseArguments specs takesOperands args p = .ok p') (hp : p.Valued specs) :
    p'.Valued specs := by
  induction hn : args.length using Nat.strong_induction_on generalizing args p with
  | _ n ih =>
    rcases args with - | ⟨arg, args⟩
    · cases h
      exact hp
    · obtain ⟨p₁, rest, hstep, hlen, hrest⟩ := exists_step_of_parseArguments h
      rw [List.length_cons] at hn
      exact ih rest.length (by omega) hrest (hstep.valued hp) rfl

/-! ### Requests -/

/-- No path in the request is empty. -/
structure Request.Sound (config : String) (overrides : Overrides) : Prop where
  config : config ≠ ""
  rules : overrides.rules ≠ some ""
  database : overrides.database ≠ some ""

/-- An option that needs a value has one. -/
theorem Parsed.Valued.lookup_ne {p : Parsed} (h : p.Valued Request.matchOptions) {name : String}
    (hname : name ≠ "log-level") : p.options.lookup name ≠ some "" := by
  intro hlookup
  obtain ⟨before, after, hsplit, -⟩ := List.lookup_eq_some_iff.mp hlookup
  obtain ⟨spec, hspec, rfl, hempty⟩ := h name (by simp [hsplit])
  simp only [Request.matchOptions, List.mem_cons, List.not_mem_nil, or_false] at hspec
  rcases hspec with rfl | rfl | rfl | rfl
  · cases hempty
  · cases hempty
  · cases hempty
  · exact hname rfl

/-- A request for decisions has been read from the arguments of `match`. -/
theorem exists_parsed_of_ofArguments {args : List String} {config : String}
    {overrides : Overrides} {destinations : List String}
    (h : Request.ofArguments args = .run (.judge config overrides destinations)) :
    ∃ p : Parsed, p.Valued Request.matchOptions ∧
      Request.ofMatch p = .run (.judge config overrides destinations) := by
  rcases args with - | ⟨arg, args⟩
  · cases h
  rw [Request.ofArguments] at h
  split at h
  · -- `check` makes no such request
    rcases hparse : parseArguments Request.checkOptions false args {} with stop | p
    · rw [hparse] at h
      cases stop <;> cases h
    · rw [hparse, Request.ofParsed, Request.ofCheck] at h
      rcases hrules : p.options.lookup "rules" with - | rules <;> rw [hrules] at h <;> cases h
  · rcases hparse : parseArguments Request.matchOptions true args {} with stop | p
    · rw [hparse] at h
      cases stop <;> cases h
    · rw [hparse] at h
      exact ⟨p, valued_of_parseArguments hparse (fun name hmem => by cases hmem), h⟩
  · split at h <;> cases h
  all_goals cases h

/-- What a command line asks for has a destination and no empty path. -/
theorem Request.sound_of_ofArguments {args : List String} {config : String}
    {overrides : Overrides} {destinations : List String}
    (h : ofArguments args = .run (.judge config overrides destinations)) :
    Sound config overrides ∧ destinations ≠ [] := by
  obtain ⟨p, hp, hmatch⟩ := exists_parsed_of_ofArguments h
  rw [ofMatch] at hmatch
  split at hmatch
  · cases hmatch
  · rename_i hne
    cases hmatch
    refine ⟨⟨?_, hp.lookup_ne (by decide), hp.lookup_ne (by decide)⟩, hne⟩
    intro hempty
    rcases hconfig : p.options.lookup "config" with - | value
    · rw [hconfig] at hempty
      exact absurd hempty (by decide)
    · rw [hconfig, Option.getD_some] at hempty
      exact hp.lookup_ne (by decide) (hempty ▸ hconfig)

/-! ### Command lines -/

/-- An option and its value in one argument. -/
def optionArgument (name value : String) : String := "--" ++ name ++ "=" ++ value

/-- A command line that asks for decisions. -/
def commandLine (config : String) (overrides : Overrides) (destinations : List String) :
    List String :=
  "match" :: optionArgument "config" config ::
    ((overrides.rules.map (optionArgument "rules")).toList ++
      ((overrides.database.map (optionArgument "geoip")).toList ++
        ((overrides.logLevel.map (optionArgument "log-level")).toList ++ "--" :: destinations)))

theorem Argument.ofString_optionArgument {name : String} (h : '=' ∉ name.toList) (value : String) :
    ofString (optionArgument name value) = long name (some value) := by
  have hchars : (optionArgument name value).toList
      = '-' :: '-' :: (name.toList ++ '=' :: value.toList) := by
    simp [optionArgument]
  obtain ⟨c, cs, hcs⟩ : ∃ c cs, name.toList ++ '=' :: value.toList = c :: cs :=
    List.exists_cons_of_ne_nil (by simp)
  have hcut : Text.cutFirst? ['='] (c :: cs) = some (name.toList, value.toList) := by
    rw [← hcs, Text.cutFirst?_append_cons h]
  simp only [ofString, hchars, hcs, hcut, String.ofList_toList]

/-- An option in one argument is read, if it is known and new. -/
theorem parseArguments_optionArgument {name value : String} {spec : OptionSpec}
    (hname : '=' ∉ name.toList) (hspec : specs.find? (·.name = name) = some spec)
    (hvalue : value = "" → spec.mayBeEmpty = true) {p : Parsed}
    (hnew : p.options.lookup spec.name = none) (args : List String) :
    parseArguments specs takesOperands (optionArgument name value :: args) p
      = parseArguments specs takesOperands args
          { p with options := p.options ++ [(spec.name, value)] } := by
  have hwith : p.withOption spec value
      = .ok { p with options := p.options ++ [(spec.name, value)] } := by
    rw [Parsed.withOption, if_neg]
    rw [hnew]
    rintro (h | ⟨h, hnot⟩)
    · cases h
    · exact hnot (hvalue h)
  simp only [parseArguments, Argument.ofString_optionArgument hname, hspec, hwith]
  rfl

/-- The same for an option that may be left out. -/
theorem parseArguments_optional {name : String} {value : Option String} {spec : OptionSpec}
    (hname : '=' ∉ name.toList) (hspec : specs.find? (·.name = name) = some spec)
    (hvalue : value = some "" → spec.mayBeEmpty = true) {p : Parsed}
    (hnew : p.options.lookup spec.name = none) (args : List String) :
    parseArguments specs takesOperands ((value.map (optionArgument name)).toList ++ args) p
      = parseArguments specs takesOperands args
          { p with options := p.options ++ (value.map fun v => (spec.name, v)).toList } := by
  rcases value with - | value
  · simp
  · exact parseArguments_optionArgument hname hspec (fun h => hvalue (congrArg some h)) hnew args

/-- Behind two dashes everything is a destination. -/
theorem parseArguments_separator (p : Parsed) (operands : List String) :
    parseArguments specs true ("--" :: operands) p
      = .ok { p with operands := p.operands ++ operands } := by
  have hseparator : Argument.ofString "--" = .separator := by decide +kernel
  simp [parseArguments, hseparator, Parsed.withOperands]

/-- A command line reads as the request that it was written for. -/
theorem ofArguments_commandLine {config : String} {overrides : Overrides}
    (h : Request.Sound config overrides) {destinations : List String} (hne : destinations ≠ []) :
    Request.ofArguments (commandLine config overrides destinations)
      = .run (.judge config overrides destinations) := by
  obtain ⟨hconfig, hrules, hdatabase⟩ := h
  obtain ⟨rules, database, logLevel⟩ := overrides
  have hmatch : Argument.ofString "match" = .operand "match" := by decide +kernel
  rw [commandLine, Request.ofArguments, hmatch]
  simp only
  rw [parseArguments_optionArgument (by decide) rfl (fun hempty => absurd hempty hconfig) rfl,
    parseArguments_optional (by decide) rfl (fun hempty => absurd hempty hrules) rfl,
    parseArguments_optional (by decide) rfl (fun hempty => absurd hempty hdatabase),
    parseArguments_optional (by decide) rfl (fun _ => rfl), parseArguments_separator]
  · -- the values are found again under their names
    obtain ⟨d, ds, rfl⟩ := List.exists_cons_of_ne_nil hne
    cases rules <;> cases database <;> cases logLevel <;> rfl
  · cases rules <;> cases database <;> rfl
  · cases rules <;> rfl

end EgressPolicy.CommandLine
