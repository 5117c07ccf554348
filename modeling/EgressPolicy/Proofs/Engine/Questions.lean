/-
EgressPolicy/Proofs/Engine/Questions.lean

What a search asks, and what a call asks.

A search tries the rules up to the first that covers the destination
(`tried`), and each of them asks for itself (`scan_snd`).  Only rules on
countries ask, and only where there is an address: one lookup each, if there is
a database (`countP_isLookup_scan`).  The resolver is asked by the call, before
any search, and never about a literal.  A call that finds its key asks nothing
else (`questions_of_some`).
-/
import Mathlib
import EgressPolicy.Proofs.Engine.Uncached

namespace EgressPolicy

/-! ### Kinds of questions -/

namespace Question

/-- The question is for the resolver. -/
def isResolve : Question → Bool
  | resolve _ => true
  | country _ | unanswerable _ => false

/-- The question is looked up in the country database. -/
def isLookup : Question → Bool
  | country _ => true
  | resolve _ | unanswerable _ => false

end Question

/-! ### Searches -/

/-- The rules that a search tries: those in front of the first rule that covers
the destination, and that one; all of them if none does. -/
def tried (reader : Option CountryReader) (s : Subject) (rules : List Rule) : List Rule :=
  rules.take (rules.findIdx (·.covers reader s) + 1)

/-- A search asks what the rules ask that it tries. -/
theorem scan_snd (reader : Option CountryReader) (s : Subject) (rules : List Rule) :
    (scan reader s rules).2 = (tried reader s rules).flatMap fun r => (r.probe reader s).2 := by
  induction rules with
  | nil => rfl
  | cons r rules ih =>
    rcases e : r.covers reader s with - | -
    · simp [scan, tried, Rule.probe_fst, List.findIdx_cons, e, ih]
    · simp [scan, tried, Rule.probe_fst, List.findIdx_cons, e]

/-- A search asks the resolver nothing. -/
theorem resolve_notMem_scan (reader : Option CountryReader) (s : Subject) (rules : List Rule)
    (host : String) : Question.resolve host ∉ (scan reader s rules).2 := by
  have hcondition : ∀ (c : Condition) (ip : Ip), Question.resolve host ∉ (c.probe reader ip).2 := by
    intro c ip
    cases c <;> cases reader <;> simp [Condition.probe]
  rw [scan_snd, List.mem_flatMap]
  rintro ⟨r, -, hr⟩
  rw [Rule.probe] at hr
  split at hr
  · cases hr
  · split at hr
    · exact hcondition _ _ hr
    · cases hr

/-- Only rules on countries ask. -/
theorem Rule.probe_snd_of_country?_eq_none {r : Rule} (h : r.country? = none)
    (reader : Option CountryReader) (s : Subject) : (r.probe reader s).2 = [] := by
  obtain ⟨action, c⟩ := r
  rw [probe]
  split
  · rfl
  · cases c with
    | country code => cases h
    | _ => split <;> rfl

/-- A rule on a country looks up the address, if there is one, and if there is
a database to look it up in. -/
theorem Rule.countP_isLookup_probe {r : Rule} {reader : Option CountryReader}
    (h : r.country?.isSome → reader.isSome) (s : Subject) :
    (r.probe reader s).2.countP Question.isLookup
      = if s.ip.isSome ∧ r.country?.isSome then 1 else 0 := by
  rcases hcountry : r.country? with - | code
  · rw [probe_snd_of_country?_eq_none hcountry]
    simp
  · rw [hcountry] at h
    obtain ⟨read, rfl⟩ := Option.isSome_iff_exists.mp (h rfl)
    obtain ⟨action, c⟩ := r
    obtain ⟨name, ip⟩ := s
    cases c with
    | country code' =>
      -- no name is covered, so the address is always looked at
      have hname : name.any (Condition.country code').coversName = false := by
        cases name <;> rfl
      rcases ip with - | ip <;> simp [probe, hname, Condition.probe, Question.isLookup]
    | _ => cases hcountry

/-- A search looks up its address once for each rule on a country that it tries. -/
theorem countP_isLookup_scan {reader : Option CountryReader} {rules : List Rule}
    (h : ∀ r ∈ rules, r.country?.isSome → reader.isSome) (s : Subject) :
    (scan reader s rules).2.countP Question.isLookup
      = if s.ip.isSome then (tried reader s rules).countP (fun r => r.country?.isSome) else 0 := by
  have htried : ∀ r ∈ tried reader s rules, r.country?.isSome → reader.isSome := fun r hr =>
    h r (List.mem_of_mem_take hr)
  rw [scan_snd]
  generalize tried reader s rules = rs at htried ⊢
  induction rs with
  | nil => simp
  | cons r rs ih =>
    rw [List.flatMap_cons, List.countP_append, ih fun x hx => htried x (List.mem_cons_of_mem _ hx),
      Rule.countP_isLookup_probe (htried r List.mem_cons_self), List.countP_cons]
    rcases s.ip with - | ip
    · simp
    · simp [Nat.add_comm]

/-! ### Calls -/

namespace Engine

variable {γ : Type}

/-- A call that finds its key asks for the address of a host name, and nothing more. -/
theorem questions_of_some {e : Engine γ} {s : String} {a : Action}
    (h : e.cache.find? (Destination.ofString s).key = some a) (w : World γ) :
    (e.judge w s).questions = lookups s := by
  rw [judge_eq, consult_of_some h]
  exact List.append_nil _

/-- A call that does not find its key searches as well. -/
theorem questions_of_none {e : Engine γ} {s : String}
    (h : e.cache.find? (Destination.ofString s).key = none) (w : World γ) :
    (e.judge w s).questions = lookups s ++ (e.search w (subject w s)).2 := by
  rw [judge_eq, consult_of_none h]

/-- The resolver is asked once about a host name and never about a literal,
whether the key is found or not. -/
theorem countP_isResolve_judge (e : Engine γ) (w : World γ) (s : String) :
    (e.judge w s).questions.countP Question.isResolve
      = if (ZonedIp.ofString? s).isNone then 1 else 0 := by
  have hlookups : (lookups s).countP Question.isResolve
      = if (ZonedIp.ofString? s).isNone then 1 else 0 := by
    rw [lookups]
    rcases ZonedIp.ofString? s with - | addr <;> rfl
  rcases hc : e.cache.find? (Destination.ofString s).key with - | a
  · have hsearch : (e.search w (subject w s)).2.countP Question.isResolve = 0 := by
      rw [List.countP_eq_zero]
      intro q hq hresolve
      cases q with
      | resolve host => exact resolve_notMem_scan _ _ _ host hq
      | country ip => cases hresolve
      | unanswerable ip => cases hresolve
    rw [questions_of_none hc, List.countP_append, hlookups, hsearch, Nat.add_zero]
  · rw [questions_of_some hc, hlookups]

/-- Nothing that the resolver is asked is a lookup. -/
theorem countP_isLookup_lookups (s : String) : (lookups s).countP Question.isLookup = 0 := by
  rw [lookups]
  rcases ZonedIp.ofString? s with - | addr <;> rfl

end Engine
end EgressPolicy
