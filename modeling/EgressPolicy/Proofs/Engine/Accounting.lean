/-
EgressPolicy/Proofs/Engine/Accounting.lean

What a run costs.

Over a run the resolver is asked once for each host name, hit or miss.  The
country database is looked into by searches alone, so with room for all keys of
the run it costs what the first call with each key costs (`Engine.firstCost`),
and the cache ends up with one entry a key; without any room every call costs
what it costs on its own (`run_accounts`).

The invariant is that of remembered actions (`Engine.Holds`): what the cache
holds says which calls are hits, and hits look nothing up.  Along with it runs
the sum of the costs so far, which a call changes only if its key is new
(`Engine.totalCost_concat`).
-/
import Mathlib
import EgressPolicy.Proofs.Engine.Memoisation
import EgressPolicy.Proofs.Engine.Questions

namespace EgressPolicy

variable {γ : Type}

namespace Engine

/-! ### Runs -/

/-- All that is asked in successive calls, each in a world of its own. -/
def asked (e : Engine γ) : List (World γ × String) → List Question
  | [] => []
  | (w, destination) :: calls =>
    let j := e.judge w destination
    j.questions ++ j.engine.asked calls

/-- The engine after successive calls. -/
def after (e : Engine γ) : List (World γ × String) → Engine γ
  | [] => e
  | (w, destination) :: calls => (e.judge w destination).engine.after calls

/-- The resolver is asked as often as there are host names among the destinations. -/
theorem countP_isResolve_asked (e : Engine γ) (calls : List (World γ × String)) :
    (e.asked calls).countP Question.isResolve
      = calls.countP fun call => (ZonedIp.ofString? call.2).isNone := by
  induction calls generalizing e with
  | nil => rfl
  | cons call calls ih =>
    rw [asked, List.countP_append, countP_isResolve_judge, ih, List.countP_cons, Nat.add_comm]

/-! ### Costs -/

/-- How many lookups it takes to search for a destination: one for each rule on
a country up to the first rule that covers the destination, and none for a host
name that does not resolve. -/
def cost (e : Engine γ) (call : World γ × String) : Nat :=
  if (subject call.1 call.2).ip.isSome then
    (tried (e.reader call.1) (subject call.1 call.2) e.rules).countP (fun r => r.country?.isSome)
  else 0

/-- There is a database if a rule asks for one. -/
def Equipped (e : Engine γ) : Prop := ∀ r ∈ e.rules, r.country?.isSome → e.database.isSome

theorem equipped_of_build {b : Builder} {openDatabase : Except LoadError γ} {e : Engine γ}
    (h : b.build (m := Id) openDatabase = .ok e) : e.Equipped := by
  rw [Builder.build] at h
  split at h
  · rcases openDatabase with error | database
    · cases h
    · cases h
      exact fun _ _ _ => rfl
  · rename_i hneeds
    cases h
    intro r hr hcountry
    exact absurd (List.any_eq_true.mpr ⟨r, hr, hcountry⟩) hneeds

/-- A search looks up as often as it costs. -/
theorem Equipped.countP_isLookup_search {e : Engine γ} (h : e.Equipped)
    (call : World γ × String) :
    (e.search call.1 (subject call.1 call.2)).2.countP Question.isLookup = e.cost call := by
  refine countP_isLookup_scan (fun r hr hcountry => ?_) _
  rw [reader, Option.isSome_map]
  exact h r hr hcountry

/-- A call that finds its key looks nothing up. -/
theorem countP_isLookup_of_some {e : Engine γ} {call : World γ × String} {a : Action}
    (h : e.cache.find? (callKey call) = some a) :
    (e.judge call.1 call.2).questions.countP Question.isLookup = 0 := by
  rw [questions_of_some h, countP_isLookup_lookups]

/-- A call that does not find its key looks up as often as its search costs. -/
theorem Equipped.countP_isLookup_of_none {e : Engine γ} (he : e.Equipped)
    {call : World γ × String} (h : e.cache.find? (callKey call) = none) :
    (e.judge call.1 call.2).questions.countP Question.isLookup = e.cost call := by
  rw [questions_of_none h, List.countP_append, countP_isLookup_lookups, Nat.zero_add,
    he.countP_isLookup_search]

/-- What the first of some calls with a key costs. -/
def firstCost (e : Engine γ) (calls : List (World γ × String)) (key : String) : Nat :=
  (calls.find? fun call => callKey call == key).elim 0 e.cost

/-- What the first calls with their keys cost together. -/
def totalCost (e : Engine γ) (calls : List (World γ × String)) : Nat :=
  ∑ key ∈ (calls.map callKey).toFinset, e.firstCost calls key

/-- Later calls do not change what the first call with a key costs. -/
theorem firstCost_append_of_mem (e : Engine γ) {xs : List (World γ × String)} {key : String}
    (h : key ∈ xs.map callKey) (ys : List (World γ × String)) :
    e.firstCost (xs ++ ys) key = e.firstCost xs key := by
  obtain ⟨call, hcall, rfl⟩ := List.mem_map.mp h
  have hfound : (xs.find? fun c => callKey c == callKey call).isSome := by
    rw [List.find?_isSome]
    exact ⟨call, hcall, beq_self_eq_true _⟩
  rw [firstCost, List.find?_append, Option.or_of_isSome hfound, firstCost]

/-- The first call with a new key is the one that brings it in. -/
theorem firstCost_concat_of_notMem (e : Engine γ) {calls : List (World γ × String)}
    {call : World γ × String} (h : callKey call ∉ calls.map callKey) :
    e.firstCost (calls ++ [call]) (callKey call) = e.cost call := by
  have hnone : (calls.find? fun c => callKey c == callKey call) = none := by
    rw [List.find?_eq_none]
    intro c hc hkey
    exact h (List.mem_map.mpr ⟨c, hc, beq_iff_eq.mp hkey⟩)
  rw [firstCost, List.find?_append, hnone, Option.none_or]
  simp

/-- One more call adds its cost if its key is new, and nothing otherwise. -/
theorem totalCost_concat (e : Engine γ) (calls : List (World γ × String))
    (call : World γ × String) :
    e.totalCost (calls ++ [call])
      = e.totalCost calls + if callKey call ∈ calls.map callKey then 0 else e.cost call := by
  have hkeys : ((calls ++ [call]).map callKey).toFinset
      = insert (callKey call) (calls.map callKey).toFinset := by
    ext k
    simp
  have hold : ∑ key ∈ (calls.map callKey).toFinset, e.firstCost (calls ++ [call]) key
      = e.totalCost calls :=
    Finset.sum_congr rfl fun key hkey => e.firstCost_append_of_mem (List.mem_toFinset.mp hkey) _
  rw [totalCost, hkeys]
  split
  · rename_i hmem
    rw [Finset.insert_eq_of_mem (List.mem_toFinset.mpr hmem), hold, Nat.add_zero]
  · rename_i hnew
    rw [Finset.sum_insert (fun hmem => hnew (List.mem_toFinset.mp hmem)), hold,
      e.firstCost_concat_of_notMem hnew, Nat.add_comm]

/-! ### The invariant along a run -/

/-- A run with room for its keys leaves the cache with one entry a key. -/
theorem Holds.exists_after {e : Engine γ} {c : Cache} {before calls : List (World γ × String)}
    (h : e.Holds c before)
    (hroom : ((before ++ calls).map callKey).toFinset.card ≤ c.capacity) :
    ∃ c' : Cache, ({ e with cache := c } : Engine γ).after calls = { e with cache := c' } ∧
      e.Holds c' (before ++ calls) := by
  induction calls generalizing c before with
  | nil => exact ⟨c, rfl, by rwa [List.append_nil]⟩
  | cons call calls ih =>
    obtain ⟨c₁, hengine, hcap, h₁⟩ :=
      h.step call (le_trans (card_keys_concat_le before calls call) hroom)
    have hsplit : before ++ call :: calls = (before ++ [call]) ++ calls := by simp
    obtain ⟨c₂, hafter, h₂⟩ := ih h₁ (by rw [← hsplit, hcap]; exact hroom)
    exact ⟨c₂, by rw [after, hengine, hafter], by rwa [hsplit]⟩

/-- A call is a hit if an earlier call has its key, and then it costs nothing. -/
theorem Holds.countP_isLookup_judge {e : Engine γ} (he : e.Equipped) {c : Cache}
    {before : List (World γ × String)} (h : e.Holds c before) (call : World γ × String) :
    (({ e with cache := c } : Engine γ).judge call.1 call.2).questions.countP Question.isLookup
      = if callKey call ∈ before.map callKey then 0 else e.cost call := by
  rcases hfind : c.find? (callKey call) with - | a
  · have hnew : callKey call ∉ before.map callKey := by
      rw [← firstFound_eq_none_iff (e := e), ← h.find, hfind]
    rw [if_neg hnew]
    exact Equipped.countP_isLookup_of_none (e := { e with cache := c }) he hfind
  · have hold : callKey call ∈ before.map callKey := by
      by_contra hnew
      rw [h.find, firstFound_eq_none_iff.mpr hnew] at hfind
      cases hfind
    rw [if_pos hold]
    exact countP_isLookup_of_some (e := { e with cache := c }) hfind

/-- A run with room for its keys looks up what the keys cost that are new to it. -/
theorem Holds.countP_isLookup_asked {e : Engine γ} (he : e.Equipped) {c : Cache}
    {before calls : List (World γ × String)} (h : e.Holds c before)
    (hroom : ((before ++ calls).map callKey).toFinset.card ≤ c.capacity) :
    e.totalCost before
        + (({ e with cache := c } : Engine γ).asked calls).countP Question.isLookup
      = e.totalCost (before ++ calls) := by
  induction calls generalizing c before with
  | nil => rw [List.append_nil, asked, List.countP_nil, Nat.add_zero]
  | cons call calls ih =>
    obtain ⟨c', hengine, hcap, h'⟩ :=
      h.step call (le_trans (card_keys_concat_le before calls call) hroom)
    have hsplit : before ++ call :: calls = (before ++ [call]) ++ calls := by simp
    rw [asked, List.countP_append, hengine, h.countP_isLookup_judge he, ← Nat.add_assoc,
      ← totalCost_concat, hsplit]
    exact ih h' (by rw [← hsplit, hcap]; exact hroom)

/-- A cache without room stays empty, and every call costs what it costs on its own. -/
theorem Equipped.asked_of_capacity_zero {e : Engine γ} (he : e.Equipped) {c : Cache}
    (hcap : c.capacity = 0) (hempty : c.entries = []) (calls : List (World γ × String)) :
    (({ e with cache := c } : Engine γ).after calls).cache.size = 0 ∧
      (({ e with cache := c } : Engine γ).asked calls).countP Question.isLookup
        = (calls.map e.cost).sum := by
  induction calls generalizing c with
  | nil => simp [after, asked, Cache.size, hempty]
  | cons call calls ih =>
    have hfind : ({ e with cache := c } : Engine γ).cache.find? (callKey call) = none :=
      Cache.find?_of_entries_eq_nil hempty _
    obtain ⟨hsize, hasked⟩ :=
      ih (c := c.insert (callKey call) (e.uncached call.1 call.2).action) hcap
        (Cache.entries_insert_of_capacity_zero hcap _ _)
    have hengine := judge_engine_of_none hfind call.1
    constructor
    · rw [after, hengine]
      exact hsize
    · rw [asked, List.countP_append, hengine, List.map_cons, List.sum_cons]
      exact congrArg₂ (· + ·)
        (Equipped.countP_isLookup_of_none (e := { e with cache := c }) he hfind) hasked

end Engine

/-! ### Runs of built engines -/

/-- **Every question of a run is accounted for.**  The resolver is asked once
for each host name.  With room for all keys of the run, the lookups are those
of the first call with each key, so a call whose key is known costs none, and one
action is remembered for each key.  Without room nothing is remembered, and the
lookups are those of all calls. -/
theorem run_accounts {b : Builder} {openDatabase : Except LoadError γ} {e : Engine γ}
    (hb : b.build (m := Id) openDatabase = .ok e) (calls : List (World γ × String)) :
    (e.asked calls).countP Question.isResolve
        = calls.countP (fun call => (ZonedIp.ofString? call.2).isNone) ∧
    ((calls.map callKey).toFinset.card ≤ b.capacity →
      (e.asked calls).countP Question.isLookup
          = ∑ key ∈ (calls.map callKey).toFinset, e.firstCost calls key ∧
        (e.after calls).cache.size = (calls.map callKey).toFinset.card) ∧
    (b.capacity = 0 →
      (e.after calls).cache.size = 0 ∧
        (e.asked calls).countP Question.isLookup = (calls.map e.cost).sum) := by
  have he := Engine.equipped_of_build hb
  obtain ⟨database, rfl⟩ := Engine.eq_toEngine_of_build hb
  refine ⟨Engine.countP_isResolve_asked _ calls, fun hroom => ?_, fun hcap => ?_⟩
  · have hholds : (b.toEngine database).Holds ⟨b.capacity, []⟩ [] := ⟨fun _ => rfl, rfl⟩
    have hkeys : (([] ++ calls).map callKey).toFinset.card ≤ b.capacity := hroom
    have hasked := hholds.countP_isLookup_asked he hkeys
    obtain ⟨c', hafter, hholds'⟩ := hholds.exists_after hkeys
    constructor
    · have hzero : (b.toEngine database).totalCost [] = 0 := rfl
      rw [hzero, Nat.zero_add, List.nil_append] at hasked
      exact hasked
    · have hsize := hholds'.size
      rw [List.nil_append] at hsize
      rw [← hsize]
      exact congrArg (fun e : Engine γ => e.cache.size) hafter
  · exact he.asked_of_capacity_zero hcap rfl calls

/-- Four calls with two keys: two names to resolve, and one lookup, that of the
first literal; the second literal has another spelling and a zone. -/
theorem run_accounts_sample :
    (Sample.calls.map callKey).toFinset.card ≤ Sample.roomyBuilder.capacity ∧
    ((Sample.roomyBuilder.toEngine (some ())).asked Sample.calls).countP Question.isResolve = 2 ∧
    ((Sample.roomyBuilder.toEngine (some ())).asked Sample.calls).countP Question.isLookup = 1 ∧
    ((Sample.roomyBuilder.toEngine (some ())).after Sample.calls).cache.size = 2 := by
  have hb : Sample.roomyBuilder.build (m := Id) (.ok ())
      = .ok (Sample.roomyBuilder.toEngine (some ())) := rfl
  have hroom : (Sample.calls.map callKey).toFinset.card ≤ Sample.roomyBuilder.capacity := by
    decide +kernel
  obtain ⟨hresolve, haccounts, -⟩ := run_accounts hb Sample.calls
  obtain ⟨hlookups, hsize⟩ := haccounts hroom
  refine ⟨hroom, hresolve.trans (by decide +kernel), hlookups.trans (by decide +kernel),
    hsize.trans (by decide +kernel)⟩

end EgressPolicy
