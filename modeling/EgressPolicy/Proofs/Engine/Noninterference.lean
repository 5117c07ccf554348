/-
EgressPolicy/Proofs/Engine/Noninterference.lean

Host names have no influence on what is decided about addresses.

Two engines may differ in all their rules about names, in their resolvers, in
what their caches keep, and in the host names that they are asked about in
between.  If they agree in the rules that can cover an address, they decide
the same about the same literals (`literals_undisturbed`), and neither asks
its resolver about them.

One run is enough to look at.  The decision about a literal is that of the
rules on addresses alone (`History.literal_decision`), because no turn with
the literal's key is about a host name.
-/
import Mathlib
import EgressPolicy.Proofs.Engine.History
import EgressPolicy.Proofs.Engine.Key
import EgressPolicy.Proofs.Engine.Questions

namespace EgressPolicy

variable {γ : Type}

/-! ### Rules on addresses -/

/-- The condition can cover an address. -/
def Condition.seesAddresses : Condition → Bool
  | cidr _ | country _ | all => true
  | domain _ | domainSuffix _ => false

theorem Condition.seesAddresses_of_coversIp {c : Condition} {reader : Option CountryReader}
    {ip : Ip} (h : c.coversIp reader ip = true) : c.seesAddresses = true := by
  cases c with
  | domain name => simp [coversIp] at h
  | domainSuffix suffix => simp [coversIp] at h
  | cidr network => rfl
  | country code => rfl
  | all => rfl

/-- The rules that can cover an address, in order. -/
def addressRules (rules : List Rule) : List Rule :=
  rules.filter fun r => r.condition.seesAddresses

/-- For an address the other rules might as well not be there. -/
theorem firstMatch_addressRules (rules : List Rule) (fallback : Action)
    (reader : Option CountryReader) (ip : Ip) :
    firstMatch (addressRules rules) fallback (fun c => c.coversIp reader ip)
      = firstMatch rules fallback fun c => c.coversIp reader ip := by
  have hboth : ∀ r : Rule, (r.condition.seesAddresses = true ∧ r.condition.coversIp reader ip = true)
      = (r.condition.coversIp reader ip = true) := by
    intro r
    rw [eq_iff_iff, and_iff_right_iff_imp]
    exact Condition.seesAddresses_of_coversIp
  rw [firstMatch, addressRules, List.find?_filter]
  simp only [hboth, Bool.decide_eq_true]
  rw [firstMatch]

/-- What is decided about a literal depends on the rules on addresses, the
default and the reader. -/
theorem uncached_addressRules {s : String} (h : (ZonedIp.ofString? s).isSome) (rules : List Rule)
    (fallback : Action) (reader : Option CountryReader)
    (resolve resolve' : String → Except ResolveError Ip) :
    uncachedDecision (addressRules rules) fallback reader resolve' s
      = uncachedDecision rules fallback reader resolve s := by
  obtain ⟨addr, haddr⟩ := Option.isSome_iff_exists.mp h
  rw [uncachedDecision, uncachedDecision, haddr]
  simp only [firstMatch_addressRules]

/-! ### Questions about literals -/

namespace Engine

/-- A call about a literal asks the resolver nothing. -/
theorem resolve_notMem_questions (e : Engine γ) (w : World γ) {s : String}
    (h : (ZonedIp.ofString? s).isSome) (host : String) :
    Question.resolve host ∉ (e.judge w s).questions := by
  obtain ⟨addr, haddr⟩ := Option.isSome_iff_exists.mp h
  rw [judge_eq, lookups, haddr, List.nil_append]
  rcases hc : e.cache.find? (Destination.ofString s).key with - | a
  · rw [consult_of_none hc, search]
    exact resolve_notMem_scan _ _ _ host
  · rw [consult_of_some hc]
    exact List.not_mem_nil

end Engine

/-! ### One run -/

/-- The call is about a literal. -/
def Turn.isLiteral (t : Turn γ) : Bool := (ZonedIp.ofString? t.destination).isSome

/-- In a run with one reader, the decision about a literal is the one of the
rules on addresses, with any resolver or none. -/
theorem Engine.History.literal_decision {e : Engine γ} {turns : List (Turn γ)}
    (h : e.History [] turns) {reader : Option CountryReader}
    (hreader : ∀ t ∈ turns, e.reader t.world = reader)
    (resolve : String → Except ResolveError Ip) {t : Turn γ} (ht : t ∈ turns)
    (hlit : t.isLiteral = true) :
    (t.judgement e).decision
      = uncachedDecision (addressRules e.rules) e.defaultAction reader resolve t.destination := by
  obtain ⟨addr, haddr⟩ := Option.isSome_iff_exists.mp hlit
  -- every turn with this key is about a literal of the same canonical address
  have hsame : ∀ t' ∈ turns, t'.key = t.key → (t'.uncached e).action = (t.uncached e).action := by
    intro t' ht' hkey
    rcases Destination.key_eq_iff.mp hkey with ⟨a, b, ha, hb, hip⟩ | ⟨-, hnone, -⟩
    · rw [Turn.uncached, Turn.uncached, Engine.uncached_of_literal ha,
        Engine.uncached_of_literal hb, hip, hreader t' ht', hreader t ht]
    · rw [haddr] at hnone
      cases hnone
  rw [h.decision_eq ht hsame, Turn.uncached, Engine.uncached, hreader t ht]
  exact (uncached_addressRules hlit _ _ _ _ _).symm

/-! ### Two runs -/

/-- **Host names do not interfere with literals.**  Take two built engines with
the same default and the same rules on addresses, and a run of each, in worlds
with the same country reader.  If the runs ask about the same literals in the
same order, they get the same decisions about them, whatever else they ask;
and no resolver is asked about a literal. -/
theorem literals_undisturbed {γ₁ γ₂ : Type} {b₁ b₂ : Builder}
    {open₁ : Except LoadError γ₁} {open₂ : Except LoadError γ₂}
    {e₁ : Engine γ₁} {e₂ : Engine γ₂}
    (hb₁ : b₁.build (m := Id) open₁ = .ok e₁) (hb₂ : b₂.build (m := Id) open₂ = .ok e₂)
    (hdefault : b₁.defaultAction = b₂.defaultAction)
    (hrules : addressRules b₁.rules = addressRules b₂.rules)
    {turns₁ : List (Turn γ₁)} {turns₂ : List (Turn γ₂)}
    (h₁ : e₁.History e₁.cache.entries turns₁) (h₂ : e₂.History e₂.cache.entries turns₂)
    {reader : Option CountryReader}
    (hreader₁ : ∀ t ∈ turns₁, e₁.reader t.world = reader)
    (hreader₂ : ∀ t ∈ turns₂, e₂.reader t.world = reader)
    (hliterals : (turns₁.filter Turn.isLiteral).map Turn.destination
      = (turns₂.filter Turn.isLiteral).map Turn.destination) :
    (turns₁.filter Turn.isLiteral).map (fun t => (t.judgement e₁).decision)
      = (turns₂.filter Turn.isLiteral).map (fun t => (t.judgement e₂).decision) ∧
    (∀ t ∈ turns₁, t.isLiteral = true →
      ∀ host, Question.resolve host ∉ (t.judgement e₁).questions) ∧
    ∀ t ∈ turns₂, t.isLiteral = true →
      ∀ host, Question.resolve host ∉ (t.judgement e₂).questions := by
  obtain ⟨database₁, rfl⟩ := Engine.eq_toEngine_of_build hb₁
  obtain ⟨database₂, rfl⟩ := Engine.eq_toEngine_of_build hb₂
  refine ⟨?_, fun t _ ht host => ?_, fun t _ ht host => ?_⟩
  · let offline : String → Except ResolveError Ip := fun name => .error ⟨name, ""⟩
    calc (turns₁.filter Turn.isLiteral).map (fun t => (t.judgement (b₁.toEngine database₁)).decision)
        = ((turns₁.filter Turn.isLiteral).map Turn.destination).map
            (uncachedDecision (addressRules b₁.rules) b₁.defaultAction reader offline) := by
          rw [List.map_map]
          exact List.map_congr_left fun t ht =>
            h₁.literal_decision hreader₁ offline (List.mem_filter.mp ht).1 (List.mem_filter.mp ht).2
      _ = ((turns₂.filter Turn.isLiteral).map Turn.destination).map
            (uncachedDecision (addressRules b₂.rules) b₂.defaultAction reader offline) := by
          rw [hliterals, hrules, hdefault]
      _ = (turns₂.filter Turn.isLiteral).map
            (fun t => (t.judgement (b₂.toEngine database₂)).decision) := by
          rw [List.map_map]
          exact (List.map_congr_left fun t ht =>
            h₂.literal_decision hreader₂ offline (List.mem_filter.mp ht).1
              (List.mem_filter.mp ht).2).symm
  · exact Engine.resolve_notMem_questions _ _ ht host
  · exact Engine.resolve_notMem_questions _ _ ht host

/-- Another engine with the sample policy's rule on a network, no resolver, and
a rule of its own about the name that the sample resolves. -/
def Sample.otherBuilder : Builder where
  rules :=
    [⟨.proxy, .domain "a.test"⟩,
     ⟨.block, .cidr network⟩,
     ⟨.hijack "127.0.0.1", .country "DE"⟩]
  capacity := 0

/-- The sample world without its resolver. -/
def Sample.otherWorld : World Unit where
  resolve name := .error ⟨name, "offline"⟩
  country := world.country

/-- Literals with a host name in front, whose address one of them is. -/
def Sample.mixedTurns : List (Turn Unit) :=
  [⟨world, "a.test", ⟨1, []⟩⟩, ⟨world, "10.0.0.1", ⟨1, []⟩⟩,
   ⟨world, "9.9.9.9", ⟨1, [("10.0.0.1", .block)]⟩⟩, ⟨world, "10.0.0.1", ⟨1, [("10.0.0.1", .block)]⟩⟩]

/-- The same literals, with other names. -/
def Sample.otherTurns : List (Turn Unit) :=
  [⟨otherWorld, "10.0.0.1", ⟨0, []⟩⟩, ⟨otherWorld, "9.9.9.9", ⟨0, []⟩⟩,
   ⟨otherWorld, "b.test", ⟨0, []⟩⟩, ⟨otherWorld, "10.0.0.1", ⟨0, []⟩⟩]

/-- The two sample runs agree about their three literals. -/
theorem literals_undisturbed_sample :
    (Sample.mixedTurns.filter Turn.isLiteral).map
        (fun t => (t.judgement (Sample.builder.toEngine (some ()))).decision)
      = (Sample.otherTurns.filter Turn.isLiteral).map
        (fun t => (t.judgement (Sample.otherBuilder.toEngine (some ()))).decision) ∧
    (Sample.otherTurns.filter Turn.isLiteral).length = 3 := by
  have hb₁ : Sample.builder.build (m := Id) (.ok ())
      = .ok (Sample.builder.toEngine (some ())) := rfl
  have hb₂ : Sample.otherBuilder.build (m := Id) (.ok ())
      = .ok (Sample.otherBuilder.toEngine (some ())) := rfl
  have h₁ : (Sample.builder.toEngine (some ())).History [] Sample.mixedTurns := by
    refine .cons ?_ (.cons ?_ (.cons ?_ (.cons ?_ (.nil _)))) <;>
      exact Cache.within_of_forall_mem (by decide +kernel)
  have h₂ : (Sample.otherBuilder.toEngine (some ())).History [] Sample.otherTurns := by
    refine .cons ?_ (.cons ?_ (.cons ?_ (.cons ?_ (.nil _)))) <;>
      exact Cache.within_of_forall_mem (by decide +kernel)
  have hreader₁ : ∀ t ∈ Sample.mixedTurns,
      (Sample.builder.toEngine (some ())).reader t.world = some (Sample.world.country ()) := by
    simp [Sample.mixedTurns, Engine.reader, Builder.toEngine]
  have hreader₂ : ∀ t ∈ Sample.otherTurns,
      (Sample.otherBuilder.toEngine (some ())).reader t.world
        = some (Sample.world.country ()) := by
    simp [Sample.otherTurns, Engine.reader, Builder.toEngine, Sample.otherWorld]
  exact ⟨(literals_undisturbed hb₁ hb₂ rfl (by decide) h₁ h₂ hreader₁ hreader₂
    (by decide +kernel)).1, by decide +kernel⟩

end EgressPolicy
