/-
EgressPolicy/Proofs/Rule/Shadowing.lean

Rules that an earlier rule leaves nothing to do.

`Condition.Shadows c d` compares two conditions by what is written in them:
`all` and anything; a suffix and the names at it or below it; a network and a
network in it.  What it promises is about destinations: whatever `d` covers,
by its name or by its address, `c` covers as well (`Shadows.coversName`,
`Shadows.coversIp`).  The promise needs that names are stored in small letters,
which is so if the shadowed rule was read from a line; with addresses nothing
is asked of either rule.

The first rule that covers a destination is then never the shadowed one, so
taking that one away changes no decision (`decision_eraseIdx_of_shadows`).
-/
import Mathlib
import EgressPolicy.Proofs.Engine.History
import EgressPolicy.Proofs.Rule.Labels

namespace EgressPolicy

open Text

/-! ### Networks in networks -/

/-- A block that holds the address of a block with as many or more bits that
count holds all its addresses. -/
theorem Block.contains_of_contains_addr {w : Nat} {b b' : Block w} (hlen : b.len ≤ b'.len)
    (haddr : b.contains b'.addr = true) {x : BitVec w} (hx : b'.contains x = true) :
    b.contains x = true := by
  rw [contains, beq_iff_eq] at haddr hx ⊢
  have hle := b'.len_le
  -- fewer bits are left when the shift of the smaller block is followed by another
  have hshift : w - b.len = w - b'.len + (b'.len - b.len) := by omega
  calc b.addr >>> (w - b.len)
      = b'.addr >>> (w - b.len) := haddr
    _ = b'.addr >>> (w - b'.len) >>> (b'.len - b.len) := by rw [hshift, BitVec.shiftRight_add]
    _ = x >>> (w - b'.len) >>> (b'.len - b.len) := by rw [hx]
    _ = x >>> (w - b.len) := by rw [hshift, BitVec.shiftRight_add]

theorem Network.contains_of_contains_ip {n m : Network} (hlen : n.len ≤ m.len)
    (hip : n.contains m.ip = true) {x : Ip} (hx : m.contains x = true) : n.contains x = true := by
  rcases m with b' | b' <;> rcases x with a | a
  · rcases n with b | b
    · exact Block.contains_of_contains_addr hlen hip hx
    · cases hip
  · cases hx
  · cases hx
  · rcases n with b | b
    · cases hip
    · exact Block.contains_of_contains_addr hlen hip hx

/-! ### Shadows -/

namespace Condition

/-- `c` covers by what is written in it whatever `d` covers. -/
inductive Shadows : Condition → Condition → Prop
  | all (d : Condition) : Shadows all d
  | refl (c : Condition) : Shadows c c
  | domain {suffix name : String} (h : name = suffix ∨ '.' :: suffix.toList <:+ name.toList) :
      Shadows (domainSuffix suffix) (domain name)
  | domainSuffix {suffix name : String} (h : name = suffix ∨ '.' :: suffix.toList <:+ name.toList) :
      Shadows (domainSuffix suffix) (domainSuffix name)
  /-- A network never contains an address of the other family. -/
  | cidr {n m : Network} (hlen : n.len ≤ m.len) (hip : n.contains m.ip = true) :
      Shadows (cidr n) (cidr m)

/-- A condition covers every host name that a condition in its shadow covers. -/
theorem Shadows.coversName {c d : Condition} (h : c.Shadows d) (hstored : d.Stored) {host : String}
    (hd : d.coversName host = true) : c.coversName host = true := by
  cases h with
  | all => rfl
  | refl => exact hd
  | @domain suffix name h =>
    exact isBelow_of_coversName_domain (isBelow_iff.mpr (by rwa [String.toList_inj])) hstored hd
  | @domainSuffix suffix name h =>
    simp only [Condition.coversName, Bool.and_eq_true] at hd ⊢
    exact ⟨hd.1, isBelow_trans (isBelow_iff.mpr (by rwa [String.toList_inj])) hd.2⟩
  | cidr => cases hd

/-- A condition covers every address that a condition in its shadow covers. -/
theorem Shadows.coversIp {c d : Condition} (h : c.Shadows d) {reader : Option CountryReader}
    {ip : Ip} (hd : d.coversIp reader ip = true) : c.coversIp reader ip = true := by
  cases h with
  | all => rfl
  | refl => exact hd
  | domain => cases hd
  | domainSuffix => cases hd
  | cidr hlen hip => exact Network.contains_of_contains_ip hlen hip hd

end Condition

/-! ### First matches -/

/-- An item that passes only if an earlier one does is never the first to pass. -/
theorem find?_eraseIdx_of_imp {α : Type} {xs : List α} {p : α → Bool} {i j : Nat} {x y : α}
    (hij : i < j) (hi : xs[i]? = some x) (hj : xs[j]? = some y) (h : p y = true → p x = true) :
    (xs.eraseIdx j).find? p = xs.find? p := by
  have hsplit : xs = xs.take j ++ y :: xs.drop (j + 1) := by
    obtain ⟨hlt, rfl⟩ := List.getElem?_eq_some_iff.mp hj
    rw [← List.drop_eq_getElem_cons, List.take_append_drop]
  have hmem : x ∈ xs.take j := by
    apply List.mem_of_getElem? (i := i)
    rw [List.getElem?_take_of_lt hij, hi]
  rw [List.eraseIdx_eq_take_drop_succ]
  conv_rhs => rw [hsplit]
  rw [List.find?_append, List.find?_append]
  rcases hfirst : (xs.take j).find? p with - | z
  · have hx : ¬ p x = true := List.find?_eq_none.mp hfirst x hmem
    rw [List.find?_cons_of_neg (fun hy => hx (h hy))]
  · rfl

theorem firstMatch_eraseIdx {rules : List Rule} {i j : Nat} {r r' : Rule} (hij : i < j)
    (hi : rules[i]? = some r) (hj : rules[j]? = some r') (test : Condition → Bool)
    (h : test r'.condition = true → test r.condition = true) (fallback : Action) :
    firstMatch (rules.eraseIdx j) fallback test = firstMatch rules fallback test := by
  rw [firstMatch, find?_eraseIdx_of_imp hij hi hj h, firstMatch]

/-! ### Engines -/

namespace Engine

variable {γ : Type}

/-- A decision without memory is the same without a shadowed rule. -/
theorem uncached_eraseIdx {e : Engine γ} {i j : Nat} {r r' : Rule} (hij : i < j)
    (hi : e.rules[i]? = some r) (hj : e.rules[j]? = some r')
    (hshadows : r.condition.Shadows r'.condition) (hstored : r'.condition.Stored) (w : World γ)
    (s : String) :
    ({ e with rules := e.rules.eraseIdx j } : Engine γ).uncached w s = e.uncached w s := by
  rw [Engine.uncached, Engine.uncached, uncachedDecision, uncachedDecision]
  rcases ZonedIp.ofString? s with - | addr
  · rcases w.resolve s with error | ip
    · -- only the name is there to be covered
      simp only [firstMatch_eraseIdx hij hi hj (fun c => c.coversName s)
        (hshadows.coversName hstored)]
    · -- the shadow falls on the name and on the address alike
      have htest : (r'.condition.coversName s || r'.condition.coversIp (e.reader w) ip.canonical)
            = true →
          (r.condition.coversName s || r.condition.coversIp (e.reader w) ip.canonical) = true := by
        rw [Bool.or_eq_true, Bool.or_eq_true]
        exact Or.imp (hshadows.coversName hstored) hshadows.coversIp
      exact congrArg (fun a => (⟨a, true, some ⟨ip.canonical, none⟩, none⟩ : Decision))
        (firstMatch_eraseIdx hij hi hj
          (fun c => c.coversName s || c.coversIp (e.reader w) ip.canonical) htest
          e.defaultAction)
  · exact congrArg (fun a => (⟨a, false, some addr, none⟩ : Decision))
      (firstMatch_eraseIdx hij hi hj (fun c => c.coversIp (e.reader w) addr.ip)
        hshadows.coversIp e.defaultAction)

/-- With nothing remembered, a decision is the uncached one. -/
theorem judge_decision_of_empty {e : Engine γ} (hempty : e.cache.entries = []) (w : World γ)
    (s : String) : (e.judge w s).decision = e.uncached w s := by
  rw [judge_decision, Cache.find?_of_entries_eq_nil hempty, Option.getD_none,
    Decision.withAction_self]

end Engine

/-- **A shadowed rule is dead.**  If the condition of a rule shadows that of a
later rule, which was read from a line, an engine decides the same with the
later rule and without it, as long as nothing is remembered: whatever the
destination is, whether and how it resolves, and whatever the country database
says, if there is one. -/
theorem decision_eraseIdx_of_shadows {γ : Type} {e : Engine γ} (hempty : e.cache.entries = [])
    {i j : Nat} {r r' : Rule} (hij : i < j) (hi : e.rules[i]? = some r)
    (hj : e.rules[j]? = some r') {line : String} (hline : Rule.parse line = .ok r')
    (hshadows : r.condition.Shadows r'.condition) (w : World γ) (destination : String) :
    (({ e with rules := e.rules.eraseIdx j } : Engine γ).judge w destination).decision
      = (e.judge w destination).decision := by
  rw [Engine.judge_decision_of_empty hempty,
    Engine.judge_decision_of_empty (e := { e with rules := e.rules.eraseIdx j }) hempty]
  exact Engine.uncached_eraseIdx hij hi hj hshadows (Rule.stored_of_parse hline).1 w destination

/-- A rule on a name with one on a suffix in front of it, and one in between. -/
def Sample.shadowing : Engine Unit where
  rules :=
    [⟨.block, .domainSuffix "test"⟩,
     ⟨.hijack "127.0.0.1", .cidr network⟩,
     ⟨.direct, .domain "a.test"⟩]
  defaultAction := .proxy
  cache := ⟨1, []⟩
  database := none

/-- The rule on the name decides nothing about that name, in whatever letters. -/
theorem decision_eraseIdx_of_shadows_sample :
    Rule.parse "direct domain A.test" = .ok ⟨.direct, .domain "a.test"⟩ ∧
    Sample.shadowing.rules.eraseIdx 2
      = [⟨.block, .domainSuffix "test"⟩, ⟨.hijack "127.0.0.1", .cidr Sample.network⟩] ∧
    (Sample.shadowing.judge Sample.world "a.TEST").decision.action = .block ∧
    (({ Sample.shadowing with rules := Sample.shadowing.rules.eraseIdx 2 } : Engine Unit).judge
        Sample.world "a.TEST").decision.action = .block := by
  have hline : Rule.parse "direct domain A.test" = .ok ⟨.direct, .domain "a.test"⟩ := by
    decide +kernel
  have hshadows : (Condition.domainSuffix "test").Shadows (.domain "a.test") :=
    .domain (.inr ⟨['a'], by decide +kernel⟩)
  have hblock : (Sample.shadowing.judge Sample.world "a.TEST").decision.action = .block := by
    decide +kernel
  have hsame := decision_eraseIdx_of_shadows (e := Sample.shadowing) rfl (by decide : 0 < 2) rfl rfl
    hline hshadows Sample.world "a.TEST"
  exact ⟨hline, rfl, hblock, (congrArg Decision.action hsame).trans hblock⟩

end EgressPolicy
