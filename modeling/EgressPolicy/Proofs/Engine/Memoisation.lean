/-
EgressPolicy/Proofs/Engine/Memoisation.lean

What is remembered, and what never is, while the world changes.

In a run with room for all its keys, the action of a call is the one found at
the first call of the run with the same key, in the world as it was then.  The
rest of the decision belongs to the present call (`Decision.UpToDate`).
Without any room, every action is found anew.

Invariant of the run (`Engine.Holds`): under each key the cache holds exactly
what the first call with that key found, and it has one entry a key.  The
count of the entries is what makes room for the next key.
-/
import Mathlib
import EgressPolicy.Proofs.Engine.History

namespace EgressPolicy

variable {γ : Type}

/-! ### What is always found anew -/

/-- The decision tells about the destination what the world says now: for a
literal its own address and zone, for a host name either its canonical address
or why there is none. -/
structure Decision.UpToDate (d : Decision) (w : World γ) (s : String) : Prop where
  literal : ∀ addr, ZonedIp.ofString? s = some addr →
    d.isDomain = false ∧ d.addr = some addr ∧ d.error = none
  resolved : ZonedIp.ofString? s = none → ∀ ip, w.resolve s = .ok ip →
    d.isDomain = true ∧ d.addr = some ⟨ip.canonical, none⟩ ∧ d.error = none
  unresolved : ZonedIp.ofString? s = none → ∀ error, w.resolve s = .error error →
    d.isDomain = true ∧ d.addr = none ∧ d.error = some error

theorem Engine.upToDate_uncached (e : Engine γ) (w : World γ) (s : String) (a : Action) :
    ((e.uncached w s).withAction a).UpToDate w s := by
  rw [Engine.uncached, uncachedDecision]
  constructor
  · intro addr h
    simp [h, Decision.withAction]
  · intro h ip hip
    simp [h, hip, Decision.withAction]
  · intro h error herror
    simp [h, herror, Decision.withAction]

/-! ### Keys of calls -/

/-- The key under which a call looks. -/
def callKey (call : World γ × String) : String := (Destination.ofString call.2).key

/-- The place of the first call with a key. -/
def firstWith (calls : List (World γ × String)) (key : String) : Nat :=
  calls.findIdx fun call => callKey call == key

namespace Engine

/-- The action that the first of some calls with a key found. -/
def firstFound (e : Engine γ) (calls : List (World γ × String)) (key : String) : Option Action :=
  (calls.find? fun call => callKey call == key).map fun call => (e.uncached call.1 call.2).action

theorem firstFound_append (e : Engine γ) (xs ys : List (World γ × String)) (key : String) :
    e.firstFound (xs ++ ys) key = (e.firstFound xs key).or (e.firstFound ys key) := by
  rw [firstFound, List.find?_append, firstFound, firstFound]
  rcases xs.find? fun call => callKey call == key with - | call <;> rfl

theorem firstFound_cons_self (e : Engine γ) (call : World γ × String)
    (calls : List (World γ × String)) :
    e.firstFound (call :: calls) (callKey call) = some (e.uncached call.1 call.2).action := by
  simp [firstFound]

theorem firstFound_cons_of_ne (e : Engine γ) {call : World γ × String} {key : String}
    (h : key ≠ callKey call) (calls : List (World γ × String)) :
    e.firstFound (call :: calls) key = e.firstFound calls key := by
  rw [firstFound, List.find?_cons_of_neg (by simpa using h.symm), firstFound]

theorem firstFound_eq_none_iff {e : Engine γ} {calls : List (World γ × String)} {key : String} :
    e.firstFound calls key = none ↔ key ∉ calls.map callKey := by
  simp [firstFound]

/-! ### The invariant -/

/-- The cache holds what the calls `before` found first under each key, in one entry a key. -/
structure Holds (e : Engine γ) (c : Cache) (before : List (World γ × String)) : Prop where
  find : ∀ key, c.find? key = e.firstFound before key
  size : c.size = (before.map callKey).toFinset.card

/-- One call keeps the invariant, if there is room for its key. -/
theorem Holds.step {e : Engine γ} {c : Cache} {before : List (World γ × String)}
    (h : e.Holds c before) (call : World γ × String)
    (hroom : ((before ++ [call]).map callKey).toFinset.card ≤ c.capacity) :
    ∃ c' : Cache,
      (({ e with cache := c } : Engine γ).judge call.1 call.2).engine = { e with cache := c' } ∧
        c'.capacity = c.capacity ∧ e.Holds c' (before ++ [call]) := by
  have hkeys : ((before ++ [call]).map callKey).toFinset
      = insert (callKey call) (before.map callKey).toFinset := by
    ext k
    simp
  rcases hfind : c.find? (callKey call) with - | a
  · -- a miss: the key is new, and it takes the room that `hroom` has for it
    have hnew : callKey call ∉ (before.map callKey).toFinset := by
      rw [List.mem_toFinset, ← firstFound_eq_none_iff (e := e), ← h.find, hfind]
    rw [hkeys, Finset.card_insert_of_notMem hnew, ← h.size] at hroom
    refine ⟨c.insert (callKey call) (e.uncached call.1 call.2).action,
      judge_engine_of_none (e := { e with cache := c }) hfind call.1, rfl, ?_, ?_⟩
    · intro key
      rw [Cache.find?_insert_of_lt hfind hroom, firstFound_append, h.find]
      by_cases hk : key = callKey call
      · rw [if_pos hk, hk, firstFound_cons_self, ← h.find, hfind, Option.none_or]
      · rw [if_neg hk, firstFound_cons_of_ne e hk]
        simp [firstFound]
    · rw [Cache.size_insert_of_lt hfind hroom, hkeys, Finset.card_insert_of_notMem hnew, h.size]
  · -- a hit: neither the cache nor the set of keys changes
    have hold : callKey call ∈ (before.map callKey).toFinset := by
      rw [List.mem_toFinset]
      by_contra hnot
      rw [h.find, firstFound_eq_none_iff.mpr hnot] at hfind
      cases hfind
    refine ⟨c, judge_engine_of_some (e := { e with cache := c }) hfind call.1, rfl, ?_, ?_⟩
    · intro key
      rw [firstFound_append, h.find]
      by_cases hk : key = callKey call
      · rw [hk, ← h.find, hfind, Option.some_or]
      · rw [firstFound_cons_of_ne e hk]
        simp [firstFound]
    · rw [hkeys, Finset.insert_eq_of_mem hold, h.size]

/-- Room for all keys is room for those of the first call and the ones before it. -/
theorem card_keys_concat_le (before calls : List (World γ × String)) (call : World γ × String) :
    ((before ++ [call]).map callKey).toFinset.card
      ≤ ((before ++ call :: calls).map callKey).toFinset.card := by
  apply Finset.card_le_card
  intro key
  simp only [List.mem_toFinset, List.map_append, List.mem_append, List.map_cons, List.mem_cons,
    List.map_nil, List.not_mem_nil, or_false]
  rintro (h | h)
  · exact .inl h
  · exact .inr (.inl h)

/-- A run keeps the invariant, and each of its actions is the one found first. -/
theorem Holds.run_eq {e : Engine γ} {c : Cache} {before calls : List (World γ × String)}
    (h : e.Holds c before)
    (hroom : ((before ++ calls).map callKey).toFinset.card ≤ c.capacity) :
    ({ e with cache := c } : Engine γ).run calls
      = calls.map fun call => (e.uncached call.1 call.2).withAction
          ((e.firstFound (before ++ calls) (callKey call)).getD
            (e.uncached call.1 call.2).action) := by
  induction calls generalizing c before with
  | nil => rfl
  | cons call calls ih =>
    have hsplit : before ++ call :: calls = (before ++ [call]) ++ calls := by simp
    obtain ⟨c', hengine, hcap, h'⟩ :=
      h.step call (le_trans (card_keys_concat_le before calls call) hroom)
    -- the first call with the present key is an earlier one, or else this one
    have hfirst : (e.firstFound (before ++ call :: calls) (callKey call)).getD
          (e.uncached call.1 call.2).action
        = (c.find? (callKey call)).getD (e.uncached call.1 call.2).action := by
      rw [firstFound_append, firstFound_cons_self, h.find]
      rcases e.firstFound before (callKey call) with - | a <;> rfl
    rw [run, hengine, ih h' (by rw [← hsplit, hcap]; exact hroom), ← hsplit, List.map_cons, hfirst,
      judge_decision]
    rfl

/-- A decision of a run that starts with nothing remembered. -/
theorem Holds.getElem?_run {e : Engine γ} {c : Cache} {calls : List (World γ × String)}
    (h : e.Holds c []) (hroom : (calls.map callKey).toFinset.card ≤ c.capacity) {i : Nat}
    {call : World γ × String} (hcall : calls[i]? = some call) {a : Action}
    (ha : e.firstFound calls (callKey call) = some a) :
    (({ e with cache := c } : Engine γ).run calls)[i]?
      = some ((e.uncached call.1 call.2).withAction a) := by
  rw [h.run_eq (by rwa [List.nil_append]), List.nil_append, List.getElem?_map, hcall,
    Option.map_some, ha, Option.getD_some]

/-- A cache without room changes nothing and is of no help. -/
theorem run_eq_of_capacity_zero (e : Engine γ) {c : Cache} (hcap : c.capacity = 0)
    (hempty : c.entries = []) (calls : List (World γ × String)) :
    ({ e with cache := c } : Engine γ).run calls
      = calls.map fun call => e.uncached call.1 call.2 := by
  induction calls generalizing c with
  | nil => rfl
  | cons call calls ih =>
    have hfind : ({ e with cache := c } : Engine γ).cache.find?
        (Destination.ofString call.2).key = none := Cache.find?_of_entries_eq_nil hempty _
    rw [run, judge_engine_of_none hfind, judge_decision, hfind, List.map_cons]
    exact congrArg (List.cons (e.uncached call.1 call.2))
      (ih hcap (Cache.entries_insert_of_capacity_zero hcap _ _))

/-- Every call of a run has a first call with its key. -/
theorem exists_first (e : Engine γ) {calls : List (World γ × String)} {call : World γ × String}
    (h : call ∈ calls) :
    ∃ first, calls[firstWith calls (callKey call)]? = some first ∧
      callKey first = callKey call ∧
      e.firstFound calls (callKey call) = some (e.uncached first.1 first.2).action := by
  rcases hfind : calls.find? fun c => callKey c == callKey call with - | first
  · exact absurd (List.find?_eq_none.mp hfind call h) (by simp)
  · refine ⟨first, ?_, ?_, ?_⟩
    · rw [firstWith, ← List.find?_eq_getElem?_findIdx, hfind]
    · simpa using List.find?_some hfind
    · rw [firstFound, hfind, Option.map_some]

end Engine

/-! ### Runs of built engines -/

/-- **Actions are remembered from the first call with their key, and nothing
else is.**  With room for all keys of a run, each decision is up to date but
for its action, which is that of the first decision with the same key, found
in the world of that call.  Without room all decisions are uncached. -/
theorem run_memoises {b : Builder} {openDatabase : Except LoadError γ} {e : Engine γ}
    (hb : b.build (m := Id) openDatabase = .ok e) (calls : List (World γ × String)) :
    ((calls.map callKey).toFinset.card ≤ b.capacity →
      ∀ (i : Nat) (w : World γ) (s : String), calls[i]? = some (w, s) →
        ∃ (d d₀ : Decision) (w₀ : World γ) (s₀ : String),
          (e.run calls)[i]? = some d ∧ d.UpToDate w s ∧
          calls[firstWith calls (callKey (w, s))]? = some (w₀, s₀) ∧
          (e.run calls)[firstWith calls (callKey (w, s))]? = some d₀ ∧
          d.action = d₀.action ∧
          d₀.action = (uncachedDecision b.rules b.defaultAction (e.reader w₀) w₀.resolve s₀).action) ∧
    (b.capacity = 0 →
      e.run calls = calls.map fun call =>
        uncachedDecision b.rules b.defaultAction (e.reader call.1) call.1.resolve call.2) := by
  obtain ⟨database, rfl⟩ := Engine.eq_toEngine_of_build hb
  constructor
  · intro hroom i w s hcall
    have hholds : (b.toEngine database).Holds ⟨b.capacity, []⟩ [] := ⟨fun _ => rfl, rfl⟩
    obtain ⟨⟨w₀, s₀⟩, hfirst, hkey, hfound⟩ :=
      (b.toEngine database).exists_first (List.mem_of_getElem? hcall)
    have hd := hholds.getElem?_run hroom hcall hfound
    have hd₀ := hholds.getElem?_run hroom hfirst (hkey ▸ hfound)
    exact ⟨_, _, w₀, s₀, hd, (b.toEngine database).upToDate_uncached w s _, hfirst, hd₀, rfl, rfl⟩
  · intro hcap
    exact (b.toEngine database).run_eq_of_capacity_zero hcap rfl calls

/-- Room for two actions. -/
def Sample.roomyBuilder : Builder := { builder with capacity := 2 }

/-- Nothing resolves any more, and no country is known. -/
def Sample.laterWorld : World Unit where
  resolve name := .error ⟨name, "timed out"⟩
  country _ _ := none

/-- Two keys, each looked up in both worlds. -/
def Sample.calls : List (World Unit × String) :=
  [(world, "9.9.9.9"), (world, "a.test"), (laterWorld, "::ffff:9.9.9.9%eth0"), (laterWorld, "a.test")]

/-- What was found while the name resolved is kept when it no longer does; the
action found anew would be another one. -/
theorem run_memoises_sample :
    (Sample.calls.map callKey).toFinset.card ≤ Sample.roomyBuilder.capacity ∧
    (∃ d, ((Sample.roomyBuilder.toEngine (some ())).run Sample.calls)[3]? = some d ∧
      d.UpToDate Sample.laterWorld "a.test" ∧ d.action = .block) ∧
    ((Sample.roomyBuilder.toEngine (some ())).uncached Sample.laterWorld "a.test").action
      = .direct := by
  have hb : Sample.roomyBuilder.build (m := Id) (.ok ())
      = .ok (Sample.roomyBuilder.toEngine (some ())) := rfl
  have hroom : (Sample.calls.map callKey).toFinset.card ≤ Sample.roomyBuilder.capacity := by
    decide +kernel
  have hplace : firstWith Sample.calls (callKey (Sample.laterWorld, "a.test")) = 1 := by
    decide +kernel
  obtain ⟨d, d₀, w₀, s₀, hd, hup, hfirst, -, heq, haction⟩ :=
    (run_memoises hb Sample.calls).1 hroom 3 Sample.laterWorld "a.test" rfl
  rw [hplace] at hfirst
  cases hfirst
  exact ⟨hroom, ⟨d, hd, hup, heq.trans (haction.trans (by decide +kernel))⟩, by decide +kernel⟩

end EgressPolicy
