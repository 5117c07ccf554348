/-
EgressPolicy/Proofs/Rule/OneAddress.lean

A rule on one address.

Such a rule names an address by a text, and destinations name addresses by
other texts: in other digits, with a zone, in IPv6 clothing, or by a host name
that the resolver knows.  Both sides bring what they read to its canonical form
before they compare, so the rule blocks a destination exactly if the canonical
addresses are one (`blocks_one_address`).  The texts that such a line can hold
are those of destinations, except that a rule knows no zones.

Nothing that is remembered gets in the way: literals with one key have one
canonical address, whatever the resolver says, and a host name has one as long
as the resolver keeps its answer (`Engine.subject_ip_eq_of_key_eq`).
-/
import Mathlib
import EgressPolicy.Proofs.Rule.OwnAddress

namespace EgressPolicy

open Text

/-! ### The rule of the line -/

namespace Rule

/-- A line that blocks one address has two words, and the address as a third if
it is not empty. -/
theorem wordsOf_block_ip {l : String} (hl : ∀ c ∈ l.toList, isBlank c = false) :
    wordsOf ("block ip " ++ l) = "block" :: "ip" :: if l = "" then [] else [l] := by
  by_cases hne : l = ""
  · subst hne
    decide +kernel
  · have hline : "block ip " ++ l = " ".intercalate ["block", "ip", l] := by
      rw [String.intercalate_cons_cons, String.intercalate_cons_cons, String.intercalate_singleton,
        ← String.toList_inj]
      simp
    have hwords : ∀ w ∈ ["block", "ip", l], IsWord w := by
      simp only [List.forall_mem_cons]
      exact ⟨Verb.block.isWord_word, Kind.ip.isWord_word, ⟨hne, hl⟩, by simp⟩
    rw [wordsOf, hline, fields_intercalate hwords, if_neg hne]

/-- Such a line is accepted if its text is an address alone, and then its rule
is about that address in its canonical form. -/
theorem parse_block_ip_eq_ok_iff {l : String} (hl : ∀ c ∈ l.toList, isBlank c = false) {r : Rule} :
    parse ("block ip " ++ l) = .ok r ↔
      ∃ ip, Ip.ofString? l = some ip ∧ r = ⟨.block, .cidr (.single ip.canonical)⟩ := by
  have hvalue : (if l = "" then [] else [l]).headD "" = l := by
    by_cases hne : l = "" <;> simp [hne]
  have hrest : (if l = "" then [] else [l]).tail = [] := by
    by_cases hne : l = "" <;> simp [hne]
  have hwords : parse ("block ip " ++ l)
      = ofFields (Verb.block.word :: Kind.ip.word :: if l = "" then [] else [l]) :=
    congrArg ofFields (wordsOf_block_ip hl)
  obtain ⟨action, condition⟩ := r
  rw [hwords, ofFields_words_eq_ok_iff, hvalue, Kind.ip_condition_eq_ok_iff, if_neg (by decide),
    hrest]
  constructor
  · rintro ⟨⟨ip, hip, hcondition⟩, haction⟩
    simp only [Verb.action, Except.ok.injEq, Prod.mk.injEq] at haction
    refine ⟨ip, hip, ?_⟩
    rw [← haction.1]
    exact congrArg _ hcondition
  · rintro ⟨ip, hip, hr⟩
    cases hr
    exact ⟨⟨ip, hip, rfl⟩, rfl⟩

end Rule

/-! ### The address of a destination -/

namespace Engine

variable {γ : Type}

/-- The address of a destination is its own canonical one, if it is a literal,
and for a host name that of the resolver's answer. -/
theorem subject_ip_eq_some_iff {w : World γ} {s : String} {a : Ip} :
    (subject w s).ip = some a ↔
      (∃ addr, ZonedIp.ofString? s = some addr ∧ addr.ip = a) ∨
      (ZonedIp.ofString? s = none ∧
        ∃ answer, w.resolve s = .ok answer ∧ answer.canonical = a) := by
  rcases hs : ZonedIp.ofString? s with - | addr
  · rw [subject_of_host hs]
    rcases w.resolve s with error | answer <;> simp [Except.toOption]
  · rw [subject_of_literal hs]
    simp

/-- A rule on one address decides about the destinations that have this address. -/
theorem uncached_action_of_single {e : Engine γ} {action : Action} {a : Ip}
    (hrules : e.rules = [⟨action, .cidr (.single a)⟩]) (w : World γ) (s : String) :
    (e.uncached w s).action = if (subject w s).ip = some a then action else e.defaultAction := by
  have hcovers : (subject w s).ip.any (Network.single a).contains = true ↔
      (subject w s).ip = some a := by
    rw [Option.any_eq_true]
    simp only [Network.contains_single_iff, exists_eq_right']
  rw [uncached_action_of_rules_eq hrules]
  simp only [hcovers]

end Engine

/-! ### Runs -/

variable {γ : Type}

/-- If the turn is about a host name, the resolver has one answer for it at all
turns that are about it. -/
def Turn.KeepsAnswer (t : Turn γ) (turns : List (Turn γ)) : Prop :=
  ZonedIp.ofString? t.destination = none →
    ∀ t' ∈ turns, t'.destination = t.destination →
      t'.world.resolve t.destination = t.world.resolve t.destination

namespace Engine

/-- Turns with one key are about one address, if the resolver keeps its answer. -/
theorem subject_ip_eq_of_key_eq {turns : List (Turn γ)} {t t' : Turn γ} (ht' : t' ∈ turns)
    (hkeeps : t.KeepsAnswer turns) (hkey : t'.key = t.key) :
    (subject t'.world t'.destination).ip = (subject t.world t.destination).ip := by
  rcases Destination.key_eq_iff.mp hkey with ⟨addr', addr, h', h, hip⟩ | ⟨h', h, hsame⟩
  · rw [subject_of_literal h', subject_of_literal h, hip]
  · rw [subject_of_host h', subject_of_host h, hsame, hkeeps h t' ht' hsame]

/-- What is remembered about an address is what the rule says about it. -/
theorem History.action_of_single {e : Engine γ} {action : Action} {a : Ip}
    (hrules : e.rules = [⟨action, .cidr (.single a)⟩]) {turns : List (Turn γ)}
    (h : e.History [] turns) {t : Turn γ} (ht : t ∈ turns) (hkeeps : t.KeepsAnswer turns) :
    (t.judgement e).decision.action
      = if (subject t.world t.destination).ip = some a then action else e.defaultAction := by
  have hsame : ∀ t' ∈ turns, t'.key = t.key → (t'.uncached e).action = (t.uncached e).action := by
    intro t' ht' hkey
    rw [Turn.uncached, Turn.uncached, uncached_action_of_single hrules,
      uncached_action_of_single hrules, subject_ip_eq_of_key_eq ht' hkeeps hkey]
  rw [h.decision_eq ht hsame, Turn.uncached, uncached_action_of_single hrules]

end Engine

/-- **A rule on one address blocks that address in all its spellings**, and
nothing else.  Among the texts `l` without blanks, those that such a rule can
name are the destinations without a percent sign that are addresses.  If `l` is
one of them, an engine can be built of this rule alone, and with the default to
connect directly it blocks a destination, whatever was remembered and
forgotten, exactly if that is an address with the canonical form of `l`, or a
host name for which the resolver answers with an address of that form.  Only
for a host name the resolver has to keep its answer. -/
theorem blocks_one_address {l : String} (hl : ∀ c ∈ l.toList, isBlank c = false) :
    ((∃ r, Rule.parse ("block ip " ++ l) = .ok r) ↔
      '%' ∉ l.toList ∧ ∃ a, ZonedIp.ofString? l = some a) ∧
    ∀ r, Rule.parse ("block ip " ++ l) = .ok r →
      ∃ a, ZonedIp.ofString? l = some a ∧
        ∀ b : Builder, b.rules = [r] → b.defaultAction = .direct →
          ∀ openDatabase : Except LoadError γ, ∃ e, b.build (m := Id) openDatabase = .ok e ∧
            ∀ turns, e.History e.cache.entries turns → ∀ t ∈ turns, t.KeepsAnswer turns →
              ((t.judgement e).decision.action = .block ↔
                (∃ addr, ZonedIp.ofString? t.destination = some addr ∧ addr.ip = a.ip) ∨
                (ZonedIp.ofString? t.destination = none ∧
                  ∃ answer, t.world.resolve t.destination = .ok answer ∧
                    answer.canonical = a.ip)) := by
  constructor
  · simp only [Rule.parse_block_ip_eq_ok_iff hl, ← ZonedIp.exists_ip_iff]
    constructor
    · rintro ⟨-, ip, hip, -⟩
      exact ⟨ip, hip⟩
    · rintro ⟨ip, hip⟩
      exact ⟨_, ip, hip, rfl⟩
  · intro r hr
    obtain ⟨ip, hip, rfl⟩ := (Rule.parse_block_ip_eq_ok_iff hl).mp hr
    refine ⟨⟨ip.canonical, none⟩, ZonedIp.ofString?_of_ip hip, ?_⟩
    intro b hrules hdefault openDatabase
    have hneeds : b.needsDatabase = false := by
      simp [Builder.needsDatabase, hrules, Rule.country?]
    refine ⟨b.toEngine none, ?_, ?_⟩
    · rw [Builder.build, hneeds]
      rfl
    · intro turns h t ht hkeeps
      have hfallback : (b.toEngine (none : Option γ)).defaultAction = .direct := hdefault
      rw [Engine.History.action_of_single hrules h ht hkeeps, hfallback,
        ← Engine.subject_ip_eq_some_iff]
      by_cases hip : (Engine.subject t.world t.destination).ip = some ip.canonical <;> simp [hip]

/-- The sample's address blocked, and nothing else. -/
def Sample.addressBuilder : Builder where
  rules := [⟨.block, .cidr (.single (.v4 0x0A000001#32))⟩]
  defaultAction := .direct

/-- Another spelling of the address, a name that resolves to it, and the next address. -/
def Sample.spelledTurns : List (Turn Unit) :=
  [⟨world, "::ffff:10.0.0.1%eth0", ⟨1, []⟩⟩,
   ⟨world, "a.test", ⟨1, [("10.0.0.1", .block)]⟩⟩,
   ⟨world, "10.0.0.2", ⟨1, [("a.test", .block)]⟩⟩]

/-- The rule has a spelling of its own, and all but the last destination are blocked. -/
theorem blocks_one_address_sample :
    Rule.parse "block ip 0:0:0:0:0:FFFF:a00:1" = .ok ⟨.block, .cidr (.single (.v4 0x0A000001#32))⟩ ∧
    ∀ t ∈ Sample.spelledTurns,
      (t.judgement (Sample.addressBuilder.toEngine none)).decision.action = .block ↔
        t.destination ≠ "10.0.0.2" := by
  have ha : ZonedIp.ofString? "0:0:0:0:0:FFFF:a00:1" = some ⟨.v4 0x0A000001#32, none⟩ := by
    decide +kernel
  have hr : Rule.parse ("block ip " ++ "0:0:0:0:0:FFFF:a00:1")
      = .ok ⟨.block, .cidr (.single (.v4 0x0A000001#32))⟩ := by decide +kernel
  have hh : (Sample.addressBuilder.toEngine (none : Option Unit)).History []
      Sample.spelledTurns := by
    refine .cons ?_ (.cons ?_ (.cons ?_ (.nil _))) <;>
      exact Cache.within_of_forall_mem (by decide +kernel)
  obtain ⟨a, ha', hblocks⟩ :=
    (@blocks_one_address Unit _ (ZonedIp.not_blank_of_ofString? ha)).2 _ hr
  rw [ha] at ha'
  cases ha'
  obtain ⟨e, he, hturns⟩ := hblocks Sample.addressBuilder rfl rfl (.ok ())
  have hbuilt : Sample.addressBuilder.build (m := Id) (.ok ())
      = .ok (Sample.addressBuilder.toEngine (none : Option Unit)) := rfl
  rw [hbuilt] at he
  cases he
  have hworld : ∀ t ∈ Sample.spelledTurns, t.world = Sample.world := by
    simp [Sample.spelledTurns]
  have hkeeps : ∀ t ∈ Sample.spelledTurns, t.KeepsAnswer Sample.spelledTurns := by
    intro t ht _ t' ht' _
    rw [hworld t ht, hworld t' ht']
  refine ⟨hr, fun t ht => (hturns _ hh t ht (hkeeps t ht)).trans ?_⟩
  -- the address of each destination, as the theorem wants it
  have hspelled : ZonedIp.ofString? "::ffff:10.0.0.1%eth0"
      = some ⟨.v4 0x0A000001#32, some "eth0"⟩ := by decide +kernel
  have hname : ZonedIp.ofString? "a.test" = none := by decide +kernel
  have hanswer : Sample.world.resolve "a.test" = .ok (.v6 0xFFFF0A000001#128) := by decide +kernel
  have hcanonical : (Ip.v6 0xFFFF0A000001#128).canonical = .v4 0x0A000001#32 := by decide +kernel
  have hnext : ZonedIp.ofString? "10.0.0.2" = some ⟨.v4 0x0A000002#32, none⟩ := by decide +kernel
  simp only [Sample.spelledTurns, List.mem_cons, List.not_mem_nil, or_false] at ht
  rcases ht with rfl | rfl | rfl
  · simp [hspelled]
  · simp [hname, hanswer, hcanonical]
  · simp [hnext]

end EgressPolicy
