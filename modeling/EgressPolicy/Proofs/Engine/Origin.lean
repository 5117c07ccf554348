/-
EgressPolicy/Proofs/Engine/Origin.lean

Where the action of a decision comes from.

A decision takes its action from a rule or from the default, and the default
is taken only where no rule covers everything (`Engine.Offers`).  This is so of
decisions without memory (`Engine.offers_uncached`) and therefore of all
decisions, because nothing else is ever remembered (`Engine.History.offers`).

Conversely no default is out of reach unless a rule covers everything: the
empty name is below no suffix and is no name of a rule, so where it does not
resolve, only such a rule covers it (`Engine.nameless_action`).
-/
import Mathlib
import EgressPolicy.Proofs.Engine.History

namespace EgressPolicy

variable {γ : Type}

/-- The empty name, asked for where nothing is known and nothing is remembered. -/
def Turn.nameless (γ : Type) : Turn γ := ⟨.unknown γ, "", ⟨0, []⟩⟩

namespace Engine

/-- The action can be decided on: it is that of a rule, or it is the default and
no rule covers everything. -/
def Offers (e : Engine γ) (a : Action) : Prop :=
  (∃ r ∈ e.rules, r.action = a) ∨ e.defaultAction = a ∧ ∀ r ∈ e.rules, r.condition ≠ .all

/-- Whatever a destination turns out to be, rules see something of it. -/
theorem subject_covered_by_all (w : World γ) (s : String) (reader : Option CountryReader) :
    ((subject w s).name.any Condition.all.coversName ||
      (subject w s).ip.any (Condition.all.coversIp reader)) = true := by
  rcases h : ZonedIp.ofString? s with - | addr
  · rw [subject_of_host h]
    rfl
  · rw [subject_of_literal h]
    rfl

theorem offers_uncached (e : Engine γ) (w : World γ) (s : String) :
    e.Offers (e.uncached w s).action := by
  rw [← search_subject_fst, search_fst, firstMatch]
  rcases hfind : e.rules.find? _ with - | r
  · refine .inr ⟨rfl, fun r hr hall => List.find?_eq_none.mp hfind r hr ?_⟩
    rw [hall]
    exact subject_covered_by_all w s (e.reader w)
  · exact .inl ⟨r, List.mem_of_find?_eq_some hfind, rfl⟩

/-- Memory adds nothing to what can be decided on. -/
theorem History.offers {e : Engine γ} {turns : List (Turn γ)} (h : e.History [] turns) :
    ∀ t ∈ turns, e.Offers (t.judgement e).decision.action :=
  h.forall_action (P := fun _ a => e.Offers a) (by simp)
    fun t _ => e.offers_uncached t.world t.destination

theorem history_nameless (e : Engine γ) : e.History [] [Turn.nameless γ] :=
  .cons (fun _ _ hfind => by cases hfind) (.nil _)

/-- The empty name is covered by nothing but what covers everything. -/
theorem not_covers_empty_name {r : Rule} (h : r.condition ≠ .all) :
    r.condition.coversName "" = false := by
  cases hc : r.condition with
  | all => exact absurd hc h
  | _ => rfl

/-- If no rule covers everything, the default is decided on for the empty name
where that does not resolve. -/
theorem nameless_action {e : Engine γ} (h : ∀ r ∈ e.rules, r.condition ≠ .all) :
    ((Turn.nameless γ).judgement e).decision.action = e.defaultAction := by
  have hnothing : (Turn.nameless γ).atHand.find? (Turn.nameless γ).key = none := rfl
  have hliteral : ZonedIp.ofString? "" = none := by decide
  -- rules see the empty name, and no address
  have hsubject : subject (.unknown γ) "" = ⟨some "", none⟩ := subject_of_host hliteral _
  rw [Turn.decision_of_none hnothing, Turn.uncached, Turn.nameless, ← search_subject_fst,
    search_fst, hsubject, firstMatch, List.find?_eq_none.mpr]
  · rfl
  · intro r hr
    simp [not_covers_empty_name (h r hr)]

end Engine
end EgressPolicy
