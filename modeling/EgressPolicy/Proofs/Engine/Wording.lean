/-
EgressPolicy/Proofs/Engine/Wording.lean

What the line of a decision tells about the decision.

The words of a line stand between single spaces, and nothing is quoted: a
destination, a zone and the reason of a failure may have spaces in them, and a
target may look like any word that follows it.  Still a line says all.  The
destination is known; the action is one word, and the target another one if
there is a target at all, so both end at the first space
(`Action.intercalate_words_inj`).  What stands behind them is read together
with what a decision for this destination can have found (`Decision.Finds`): of
a literal nothing that is not known, and of a host name either an address,
which has no zone, or a failure, which the next word tells apart
(`Decision.Finds.findings_inj`).

So two decisions for a destination have one line exactly if they agree in all
that a line is about (`line_eq_iff`).
-/
import Mathlib
import EgressPolicy.Proofs.Engine.Origin
import EgressPolicy.Proofs.Ip.Written
import EgressPolicy.Proofs.Rule.RoundTrip
import EgressPolicy.Proofs.Text.Cut

namespace EgressPolicy

open Text

/-! ### Actions -/

namespace Action

/-- The word for an action tells its verb. -/
theorem verb_eq_of_keyword {a a' : Action} (h : a.keyword = a'.keyword) : a.verb = a'.verb := by
  rw [keyword_eq, keyword_eq] at h
  have hread := congrArg Verb.ofField? h
  rw [Verb.ofField?_word, Verb.ofField?_word] at hread
  exact Option.some.inj hread

theorem space_notMem_keyword (a : Action) : ' ' ∉ a.keyword.toList := by
  rw [keyword_eq]
  exact (Verb.isWord_word a.verb).space_notMem

/-- The action and its target are told by their words. -/
theorem intercalate_words_inj {a a' : Action} (h : a.Stored) (h' : a'.Stored)
    {ws ws' : List String} (hne : ws ≠ []) (hne' : ws' ≠ []) :
    " ".intercalate (a.keyword :: (a.targets ++ ws))
        = " ".intercalate (a'.keyword :: (a'.targets ++ ws')) ↔
      a = a' ∧ " ".intercalate ws = " ".intercalate ws' := by
  rw [intercalate_word_cons_inj a.space_notMem_keyword a'.space_notMem_keyword
    (List.append_ne_nil_of_right_ne_nil _ hne) (List.append_ne_nil_of_right_ne_nil _ hne')]
  constructor
  · rintro ⟨hkeyword, hrest⟩
    have hverb := verb_eq_of_keyword hkeyword
    cases a with
    | hijack target =>
      cases a' with
      | hijack target' =>
        obtain ⟨rfl, htail⟩ := (intercalate_word_cons_inj (IsWord.space_notMem h)
          (IsWord.space_notMem h') hne hne').mp hrest
        exact ⟨rfl, htail⟩
      | direct | proxy | block => cases hverb
    | direct | proxy | block =>
      cases a' <;> first | exact ⟨rfl, hrest⟩ | cases hverb
  · rintro ⟨rfl, hrest⟩
    refine ⟨rfl, ?_⟩
    cases a with
    | hijack target => exact (intercalate_cons_inj hne hne').mpr hrest
    | direct | proxy | block => exact hrest

end Action

/-! ### Findings -/

namespace Decision

/-- The words behind the action and its target. -/
def findings (d : Decision) : List String :=
  (if d.isDomain then "(domain)" else "(ip)") ::
    ((d.addr.map fun a => "addr=" ++ a.render).toList ++
      (d.error.map fun e => "error=" ++ e.message).toList)

theorem findings_ne_nil (d : Decision) : d.findings ≠ [] := List.cons_ne_nil _ _

/-- The parts of a line, if a target is a word. -/
theorem line_eq {d : Decision} (h : d.action.Stored) (destination : String) :
    d.line destination = " ".intercalate
      (destination :: "->" :: d.action.keyword :: (d.action.targets ++ d.findings)) := by
  have htarget : (if d.action.target = "" then [] else [d.action.target]) = d.action.targets := by
    obtain ⟨a, isDomain, addr, error⟩ := d
    cases a with
    | hijack target => exact if_neg h.1
    | direct | proxy | block => rfl
  rw [line, words, htarget, findings]
  simp

/-- What a decision for a destination can have found: the address that the
destination is, the address that it was resolved to, or why it was not. -/
inductive Finds (destination : String) : Decision → Prop
  | literal {addr : ZonedIp} (h : ZonedIp.ofString? destination = some addr) (a : Action) :
      Finds destination ⟨a, false, some addr, none⟩
  | resolved (h : ZonedIp.ofString? destination = none) (a : Action) (ip : Ip) :
      Finds destination ⟨a, true, some ⟨ip, none⟩, none⟩
  | unresolved (h : ZonedIp.ofString? destination = none) (a : Action) (error : ResolveError) :
      Finds destination ⟨a, true, none, some error⟩

theorem Finds.withAction {destination : String} {d : Decision} (h : d.Finds destination)
    (a : Action) : (d.withAction a).Finds destination := by
  cases h with
  | literal h => exact .literal h a
  | resolved h _ ip => exact .resolved h a ip
  | unresolved h _ error => exact .unresolved h a error

/-- Both decisions found the same, as far as it can be shown. -/
def SameFindings (d d' : Decision) : Prop :=
  d.isDomain = d'.isDomain ∧ d.addr = d'.addr ∧
    d.error.map ResolveError.message = d'.error.map ResolveError.message

/-- What was found for one destination is told by its words. -/
theorem Finds.findings_inj {destination : String} {d d' : Decision} (h : d.Finds destination)
    (h' : d'.Finds destination) :
    " ".intercalate d.findings = " ".intercalate d'.findings ↔ d.SameFindings d' := by
  have happend : ∀ {a s s' : String}, a ++ s = a ++ s' ↔ s = s' := by simp
  cases h with
  | literal h =>
    cases h' with
    | literal h' =>
      obtain rfl := Option.some.inj (h.symm.trans h')
      exact iff_of_true rfl ⟨rfl, rfl, rfl⟩
    | resolved h' | unresolved h' => cases h.symm.trans h'
  | resolved h _ ip =>
    cases h' with
    | literal h' => cases h.symm.trans h'
    | resolved _ _ ip' =>
      simp [findings, SameFindings, ZonedIp.render, Ip.render_injective.eq_iff]
    | unresolved _ _ error =>
      simp [findings, SameFindings, ← String.toList_inj]
  | unresolved h _ error =>
    cases h' with
    | literal h' => cases h.symm.trans h'
    | resolved _ _ ip =>
      simp [findings, SameFindings, ← String.toList_inj]
    | unresolved _ _ error' =>
      simp [findings, SameFindings]

/-- A line tells the action, if its target is a word, and what was found. -/
theorem Finds.line_inj {destination : String} {d d' : Decision} (h : d.Finds destination)
    (h' : d'.Finds destination) (hstored : d.action.Stored) (hstored' : d'.action.Stored) :
    d.line destination = d'.line destination ↔ d.action = d'.action ∧ d.SameFindings d' := by
  rw [line_eq hstored, line_eq hstored', intercalate_cons_inj (by simp) (by simp),
    intercalate_cons_inj (by simp) (by simp),
    Action.intercalate_words_inj hstored hstored' d.findings_ne_nil d'.findings_ne_nil,
    h.findings_inj h']

end Decision

/-! ### Engines -/

namespace Engine

variable {γ γ' : Type}

/-- Wherever a connection is hijacked to, the target is a word. -/
structure TargetsAreWords (e : Engine γ) : Prop where
  default : e.defaultAction.Stored
  rules : ∀ r ∈ e.rules, r.action.Stored

/-- Whatever an engine decides, what it found is what there is to find. -/
theorem finds_judgement (e : Engine γ) (t : Turn γ) :
    (t.judgement e).decision.Finds t.destination := by
  rw [t.decision_eq_withAction e]
  apply Decision.Finds.withAction
  rw [Turn.uncached, Engine.uncached, uncachedDecision]
  rcases h : ZonedIp.ofString? t.destination with - | addr
  · rcases t.world.resolve t.destination with error | ip
    · exact .unresolved h _ error
    · exact .resolved h _ ip.canonical
  · exact .literal h _

theorem TargetsAreWords.stored {e : Engine γ} (he : e.TargetsAreWords) {turns : List (Turn γ)}
    (h : e.History [] turns) {t : Turn γ} (ht : t ∈ turns) :
    (t.judgement e).decision.action.Stored := by
  rcases h.offers t ht with ⟨r, hr, haction⟩ | ⟨hdefault, -⟩
  · exact haction ▸ he.rules r hr
  · exact hdefault ▸ he.default

/-- **The line of a decision tells the decision.**  Two engines whose targets
are words may have come to a decision about one destination in any runs and any
worlds, with whatever was remembered or forgotten.  If the decisions are shown
by the same line, they are the same in all that a line is about, and of course
conversely. -/
theorem line_eq_iff {e : Engine γ} {e' : Engine γ'} (he : e.TargetsAreWords)
    (he' : e'.TargetsAreWords) {turns : List (Turn γ)} {turns' : List (Turn γ')}
    (h : e.History [] turns) (h' : e'.History [] turns') {t : Turn γ} {t' : Turn γ'}
    (ht : t ∈ turns) (ht' : t' ∈ turns') (hdestination : t.destination = t'.destination) :
    (t.judgement e).decision.line t.destination = (t'.judgement e').decision.line t.destination ↔
      (t.judgement e).decision.action = (t'.judgement e').decision.action ∧
        (t.judgement e).decision.SameFindings (t'.judgement e').decision := by
  have hfinds' := e'.finds_judgement t'
  rw [← hdestination] at hfinds'
  exact (e.finds_judgement t).line_inj hfinds' (he.stored h ht) (he'.stored h' ht')

end Engine

/-! ### A sample -/

namespace Sample

/-- An engine that hijacks everything to one target. -/
def hijacker (target : String) : Engine Unit := ⟨[], .hijack target, ⟨0, []⟩, none⟩

/-- A call for a host name, alone in its run. -/
def call (w : World Unit) : Turn Unit := ⟨w, "a.test", ⟨0, []⟩⟩

theorem targetsAreWords_hijacker {target : String} (h : IsWord target) :
    (hijacker target).TargetsAreWords := ⟨h, by simp [hijacker]⟩

theorem history_call (e : Engine Unit) (w : World Unit) : e.History [] [call w] :=
  .cons (fun _ _ hfind => by cases hfind) (.nil _)

end Sample

/-- Targets that look like words of other lines, where the name resolves and
where it does not. -/
theorem Engine.line_eq_iff_sample :
    ((Sample.call Sample.world).judgement (Sample.hijacker "(domain)")).decision.line "a.test"
      ≠ ((Sample.call (.unknown Unit)).judgement (Sample.hijacker "addr=10.0.0.0")).decision.line
          "a.test" := by
  have he : (Sample.hijacker "(domain)").TargetsAreWords :=
    Sample.targetsAreWords_hijacker (by decide)
  have he' : (Sample.hijacker "addr=10.0.0.0").TargetsAreWords :=
    Sample.targetsAreWords_hijacker (by decide)
  have h := Sample.history_call (Sample.hijacker "(domain)") Sample.world
  have h' := Sample.history_call (Sample.hijacker "addr=10.0.0.0") (.unknown Unit)
  intro hline
  have hsame := (line_eq_iff he he' h h' List.mem_cons_self List.mem_cons_self rfl).mp hline
  exact absurd hsame.1 (by decide +kernel)

end EgressPolicy
