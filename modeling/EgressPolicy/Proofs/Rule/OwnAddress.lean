/-
EgressPolicy/Proofs/Rule/OwnAddress.lean

Whether a rule on a network covers the address that the network is written with.

The same text is read twice, by readers that do not know of each other: in a
rule line it stands in front of a slash, and as a destination it stands alone.
What both read is one address, since the reader of networks is only the laxer
of the two, and clearing the bits that do not count leaves the network's own
address in it.  But a destination, and what a host name resolves to, is brought
to its canonical form, and a network is not.  So the rule covers its own
address unless that is an IPv4 address in IPv6 clothing, in which case the
network is one of IPv6 and no destination is ever in it
(`action_at_own_address`).
-/
import Mathlib
import EgressPolicy.Proofs.Engine.Transparency
import EgressPolicy.Proofs.Ip.Bits
import EgressPolicy.Proofs.Ip.Zoned
import EgressPolicy.Proofs.Rule.Grammar

namespace EgressPolicy

open Text

/-! ### The address in front of the slash -/

/-- An address text has no blanks, in any dialect. -/
theorem Dialect.not_blank_of_ip? {d : Dialect} {cs : List Char} {ip : Ip} (h : d.ip? cs = some ip) :
    ∀ c ∈ cs, isBlank c = false := by
  intro c hc
  by_contra hblank
  rw [Bool.not_eq_false] at hblank
  rw [d.ip?_eq_none hc (digitIn?_eq_none_of_blank hblank)] at h
  · cases h
  · rintro rfl
    revert hblank
    decide
  · rintro rfl
    revert hblank
    decide

/-- A destination without a zone holds no blank. -/
theorem ZonedIp.not_blank_of_ofString? {s : String} {a : Ip} (h : ofString? s = some ⟨a, none⟩) :
    ∀ c ∈ s.toList, isBlank c = false := by
  rw [ofString?_eq] at h
  obtain ⟨ip, hip, hzone⟩ := Option.map_eq_some_iff.mp h
  have hsplit : split s.toList = ((split s.toList).1, none) := by
    simp only [ZonedIp.mk.injEq, Option.map_eq_none_iff] at hzone
    exact Prod.ext rfl hzone.2
  rcases eq_of_split hsplit with hs | hs
  · rw [hs]
    exact Dialect.not_blank_of_ip? hip
  · rw [hs]
    intro c hc
    rcases List.mem_append.mp hc with hc | hc
    · exact Dialect.not_blank_of_ip? hip c hc
    · rw [List.mem_singleton.mp hc]
      decide

namespace Network

/-- A network holds the canonical form of its own address only if the address
is canonical itself; otherwise the two are of different families. -/
theorem contains_canonical_iff (n : Network) :
    n.contains n.ip.canonical = true ↔ n.ip.canonical = n.ip := by
  rcases n with b | b
  · simp [contains, ip]
  · rcases hmapped : Ip.mapped? b.addr with - | low <;> simp [contains, ip, Ip.canonical, hmapped]

end Network

/-! ### The rule of the line -/

/-- A line that blocks a network, whose address is a word, is about the network
that it writes. -/
theorem Rule.eq_of_parse_cidr {addr len : String} {r : Rule}
    (haddr : ∀ c ∈ addr.toList, isBlank c = false)
    (h : Rule.parse ("block cidr " ++ addr ++ "/" ++ len) = .ok r) :
    ∃ rest n, Network.ofString? (String.ofList (addr.toList ++ '/' :: rest)) = some n ∧
      r = ⟨.block, .cidr n.truncate⟩ := by
  have hline : ("block cidr " ++ addr ++ "/" ++ len).toList
      = "block".toList ++ ' ' :: ("cidr".toList ++ ' ' ::
          (addr.toList ++ ['/'] ++ len.toList)) := by
    simp
  obtain ⟨rest, more, hvalue⟩ := fields_append_of_no_blank (w := addr.toList ++ ['/'])
    (by simp)
    (by
      intro c hc
      rcases List.mem_append.mp hc with hc | hc
      · exact haddr c hc
      · rw [List.mem_singleton.mp hc]
        decide)
    len.toList
  have hblock : fields "block".toList = ["block".toList] :=
    fields_of_no_blank (by simp) Verb.block.isWord_word.2
  have hcidr : fields "cidr".toList = ["cidr".toList] :=
    fields_of_no_blank (by simp) Kind.cidr.isWord_word.2
  rw [parse, hline, fields_append_blank _ _ (by decide), fields_append_blank _ _ (by decide),
    hblock, hcidr, hvalue] at h
  obtain ⟨hcondition, haction⟩ := (ofFields_words_eq_ok_iff (v := .block) (k := .cidr)).mp h
  obtain ⟨n, hn, hc⟩ := Kind.cidr_condition_eq_ok_iff.mp hcondition
  refine ⟨rest, n, by simpa using hn, ?_⟩
  obtain ⟨action, condition⟩ := r
  simp only [Verb.action, Except.ok.injEq, Prod.mk.injEq] at haction
  rw [← haction.1]
  exact congrArg _ hc

/-- The network of a line is written with the address that its text is as a
destination, before that is brought to its canonical form. -/
theorem Rule.eq_of_parse_own_cidr {l len : String} {a : Ip} {r : Rule}
    (hl : ZonedIp.ofString? l = some ⟨a, none⟩)
    (hr : Rule.parse ("block cidr " ++ l ++ "/" ++ len) = .ok r) :
    ∃ n : Network, Ip.ofString? l = some n.ip ∧ n.ip.canonical = a ∧
      r = ⟨.block, .cidr n.truncate⟩ := by
  obtain ⟨rest, n, hn, hr⟩ := eq_of_parse_cidr (ZonedIp.not_blank_of_ofString? hl) hr
  have hnetwork := (Network.reads_of_ofString? hn).1
  -- the reader of networks knows no zones, so there is no percent sign either
  have hpercent : '%' ∉ l.toList := by
    intro hmem
    rw [Dialect.network.ip?_eq_none hmem (by decide) (by decide) (by decide)] at hnetwork
    cases hnetwork
  rw [ZonedIp.ofString?_of_percent_notMem hpercent] at hl
  obtain ⟨ip, hip, hcanonical⟩ := Option.map_eq_some_iff.mp hl
  have hsame := Dialect.ip?_of_stricter Dialect.literal_stricter_network hip
  rw [hnetwork] at hsame
  obtain rfl := Option.some.inj hsame
  simp only [ZonedIp.mk.injEq, and_true] at hcanonical
  exact ⟨n, hip, hcanonical, hr⟩

/-! ### Engines with one rule -/

theorem firstMatch_singleton (r : Rule) (fallback : Action) (test : Condition → Bool) :
    firstMatch [r] fallback test = if test r.condition then r.action else fallback := by
  rcases h : test r.condition with - | - <;> simp [firstMatch, h]

variable {γ : Type}

/-- A rule on a network looks at the address of a destination alone, if it has one. -/
theorem Engine.uncached_action_of_rules_eq {e : Engine γ} {action : Action} {network : Network}
    (hrules : e.rules = [⟨action, .cidr network⟩]) (w : World γ) (s : String) :
    (e.uncached w s).action
      = if (subject w s).ip.any network.contains then action else e.defaultAction := by
  have hcovers : (Condition.cidr network).coversIp (e.reader w) = network.contains := rfl
  rw [← search_subject_fst, search_fst, hrules, firstMatch_singleton]
  rcases (subject w s).name with - | name <;> simp [Condition.coversName, hcovers]

theorem Engine.uncached_action_of_cidr {e : Engine γ} {action : Action} {network : Network}
    (hrules : e.rules = [⟨action, .cidr network⟩]) {w : World γ} {s : String} {a : Ip}
    (hs : (subject w s).ip = some a) :
    (e.uncached w s).action = if network.contains a then action else e.defaultAction := by
  rw [uncached_action_of_rules_eq hrules, hs, Option.any_some]

/-- **A network covers the address that it is written with, unless that is an
IPv4 address in IPv6 clothing.**  Take the text `l` of an address and a line
that blocks `l` with some length.  The engine of this one rule can be built,
and whenever it is asked about `l`, or about a host name that resolves to the
address, it blocks if the address is canonical, and does what its default says
otherwise. -/
theorem action_at_own_address {l len : String} {a : Ip} {r : Rule}
    (hl : ZonedIp.ofString? l = some ⟨a, none⟩)
    (hr : Rule.parse ("block cidr " ++ l ++ "/" ++ len) = .ok r)
    {b : Builder} (hrules : b.rules = [r]) (openDatabase : Except LoadError γ) (w : World γ) :
    ∃ ip e, Ip.ofString? l = some ip ∧ ip.canonical = a ∧
      b.build (m := Id) openDatabase = .ok e ∧
      ∀ turns, e.History e.cache.entries turns → (∀ t ∈ turns, t.world = w) → ∀ t ∈ turns,
        (t.destination = l ∨ ZonedIp.ofString? t.destination = none ∧
          ∃ answer, w.resolve t.destination = .ok answer ∧ answer.canonical = a) →
        (t.judgement e).decision.action = if a = ip then .block else b.defaultAction := by
  obtain ⟨n, hip, hcanonical, rfl⟩ := Rule.eq_of_parse_own_cidr hl hr
  have hneeds : b.needsDatabase = false := by
    simp [Builder.needsDatabase, hrules, Rule.country?]
  refine ⟨n.ip, b.toEngine none, hip, hcanonical, ?_, ?_⟩
  · rw [Builder.build, hneeds]
    rfl
  · intro turns h hw t ht hdestination
    have hsubject : (Engine.subject w t.destination).ip = some a := by
      rcases hdestination with hd | ⟨hhost, answer, hanswer, ha⟩
      · rw [Engine.subject_of_literal (hd ▸ hl)]
      · rw [Engine.subject_of_host hhost, hanswer]
        exact congrArg some ha
    -- truncation loses no address, so all depends on whether `a` is the address as written
    have hcovers : n.truncate.contains a = true ↔ a = n.ip := by
      rw [Network.contains_truncate, ← hcanonical, Network.contains_canonical_iff]
    rw [h.decision_eq_uncached hw t ht, Engine.uncached_action_of_cidr hrules hsubject]
    simp only [hcovers]
    rfl

/-- A network of IPv4, written with an address, of which one host name has the
other form. -/
def Sample.ownBuilder : Builder where
  rules := [⟨.block, .cidr network⟩]
  defaultAction := .direct

/-- The sample's own turns: the name first, and then its address. -/
def Sample.ownTurns : List (Turn Unit) :=
  [⟨world, "a.test", ⟨1, []⟩⟩, ⟨world, "10.0.0.1", ⟨1, [("a.test", .block)]⟩⟩]

/-- Both the address and the name that resolves to it are blocked. -/
theorem action_at_own_address_sample :
    Rule.parse "block cidr 10.0.0.1/8" = .ok ⟨.block, .cidr Sample.network⟩ ∧
    Sample.ownTurns.map (fun t => (t.judgement (Sample.ownBuilder.toEngine none)).decision.action)
      = [.block, .block] := by
  have hl : ZonedIp.ofString? "10.0.0.1" = some ⟨.v4 0x0A000001#32, none⟩ := by decide +kernel
  have hr : Rule.parse ("block cidr " ++ "10.0.0.1" ++ "/" ++ "8")
      = .ok ⟨.block, .cidr Sample.network⟩ := by decide +kernel
  have hh : (Sample.ownBuilder.toEngine (none : Option Unit)).History [] Sample.ownTurns := by
    refine .cons ?_ (.cons ?_ (.nil _)) <;> exact Cache.within_of_forall_mem (by decide +kernel)
  obtain ⟨ip, e, hip, -, he, hturns⟩ :=
    action_at_own_address hl hr (b := Sample.ownBuilder) rfl (.ok ()) Sample.world
  have hlast : some ip = some (.v4 0x0A000001#32) := hip.symm.trans (by decide +kernel)
  cases hlast
  have hbuilt : Sample.ownBuilder.build (m := Id) (.ok ())
      = .ok (Sample.ownBuilder.toEngine (none : Option Unit)) := rfl
  rw [hbuilt] at he
  cases he
  have hworld : ∀ t ∈ Sample.ownTurns, t.world = Sample.world := by simp [Sample.ownTurns]
  have hname := hturns _ hh hworld _ List.mem_cons_self
    (.inr ⟨by decide +kernel, .v6 0xFFFF0A000001#128, by decide +kernel, by decide +kernel⟩)
  have haddress := hturns _ hh hworld _ (List.mem_cons_of_mem _ List.mem_cons_self) (.inl rfl)
  refine ⟨hr, ?_⟩
  rw [Sample.ownTurns, List.map_cons, List.map_cons, hname, haddress]
  rfl

/-- A host route to an IPv4 address in IPv6 clothing covers neither the address
that it names nor a host name that resolves to it. -/
theorem mapped_own_address_not_covered :
    ZonedIp.ofString? "::ffff:10.0.0.1" = some ⟨.v4 0x0A000001#32, none⟩ ∧
    Rule.parse "block cidr ::ffff:10.0.0.1/128"
      = .ok ⟨.block, .cidr (.single (.v6 0xFFFF0A000001#128))⟩ ∧
    let b : Builder :=
      { rules := [⟨.block, .cidr (.single (.v6 0xFFFF0A000001#128))⟩], defaultAction := .direct }
    ((b.toEngine (none : Option Unit)).judge Sample.world "::ffff:10.0.0.1").decision.action
      = .direct ∧
    Sample.world.resolve "a.test" = .ok (.v6 0xFFFF0A000001#128) ∧
    ((b.toEngine (none : Option Unit)).judge Sample.world "a.test").decision.action = .direct := by
  decide +kernel

end EgressPolicy
