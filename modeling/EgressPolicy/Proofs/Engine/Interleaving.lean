/-
EgressPolicy/Proofs/Engine/Interleaving.lean

Calls that share one engine and take their steps in between one another.

A call takes three steps: the resolver answers, which is for host names only;
the memory is read; and where that has nothing the rules are searched and the
action is inserted.  Any other calls may take steps in between.  Each call has
a world of its own, so the resolver may answer two of them differently.  Where
no other call interferes, the three steps are `Engine.judge`
(`advance_thrice`), and calls one after another are `Engine.run`
(`stage_sequence`).

Invariant of all schedules (`Traced`): what is found in memory and what a call
returns was inserted, and what is inserted under a key is the action that one
of the calls with that key finds on its own.  So if all of these agree, calls
that miss together do no harm.  If two of them do not agree, both may read
before either inserts, and then each returns its own action and the later one
takes the place of the other (`collision`).
-/
import Mathlib
import EgressPolicy.Proofs.Engine.Memoisation
import EgressPolicy.Proofs.Engine.Key

namespace EgressPolicy

variable {γ ι : Type}

/-! ### Steps -/

/-- How far a call has come. -/
inductive Stage where
  /-- The resolver has not answered. -/
  | asking
  /-- It is known what the rules are to see, and the memory has not been read. -/
  | ready (subject : Subject)
  /-- The memory had nothing. -/
  | missed (subject : Subject)
  /-- The call has returned. -/
  | done (action : Action)
deriving DecidableEq

/-- Where a call begins: for a literal nobody has to be asked. -/
def Stage.first (call : World γ × String) : Stage :=
  if (ZonedIp.ofString? call.2).isSome then ready (Engine.subject call.1 call.2) else asking

/-- What calls in progress share, and how far each of them has come. -/
structure Progress (ι : Type) where
  cache : Cache
  /-- Everything that was inserted, the newest first. -/
  inserts : List (String × Action)
  stage : ι → Stage

/-- No call has taken a step. -/
def Progress.start (calls : ι → World γ × String) (c : Cache) : Progress ι :=
  ⟨c, [], fun i => Stage.first (calls i)⟩

namespace Engine

/-- The action that a call finds on its own. -/
def ownAction (e : Engine γ) (call : World γ × String) : Action :=
  (e.uncached call.1 call.2).action

section
variable [DecidableEq ι]

/-- One step of one call. -/
def advance (e : Engine γ) (calls : ι → World γ × String) (p : Progress ι) (i : ι) :
    Progress ι :=
  match p.stage i with
  | .asking =>
    { p with stage := Function.update p.stage i (.ready (subject (calls i).1 (calls i).2)) }
  | .ready s =>
    match p.cache.find? (callKey (calls i)) with
    | some action => { p with stage := Function.update p.stage i (.done action) }
    | none => { p with stage := Function.update p.stage i (.missed s) }
  | .missed s =>
    let action := (e.search (calls i).1 s).1
    { cache := p.cache.insert (callKey (calls i)) action
      inserts := (callKey (calls i), action) :: p.inserts
      stage := Function.update p.stage i (.done action) }
  | .done _ => p

/-- How far calls have come, and with what, after the steps of a schedule. -/
def progress (e : Engine γ) (calls : ι → World γ × String) (schedule : List ι) : Progress ι :=
  schedule.foldl (e.advance calls) (.start calls e.cache)

end

section
variable [DecidableEq ι] {e : Engine γ} {calls : ι → World γ × String} {p : Progress ι} {i j : ι}

theorem advance_of_asking (h : p.stage i = .asking) :
    e.advance calls p i
      = { p with
          stage := Function.update p.stage i (.ready (subject (calls i).1 (calls i).2)) } := by
  rw [advance, h]

theorem advance_of_hit {s : Subject} {a : Action} (h : p.stage i = .ready s)
    (hfind : p.cache.find? (callKey (calls i)) = some a) :
    e.advance calls p i = { p with stage := Function.update p.stage i (.done a) } := by
  rw [advance, h]
  simp only [hfind]

theorem advance_of_miss {s : Subject} (h : p.stage i = .ready s)
    (hfind : p.cache.find? (callKey (calls i)) = none) :
    e.advance calls p i = { p with stage := Function.update p.stage i (.missed s) } := by
  rw [advance, h]
  simp only [hfind]

/-- A call that missed inserts the action that it finds on its own. -/
theorem advance_of_missed (h : p.stage i = .missed (subject (calls i).1 (calls i).2)) :
    e.advance calls p i
      = { cache := p.cache.insert (callKey (calls i)) (e.ownAction (calls i))
          inserts := (callKey (calls i), e.ownAction (calls i)) :: p.inserts
          stage := Function.update p.stage i (.done (e.ownAction (calls i))) } := by
  rw [advance, h]
  simp only [search_subject_fst]
  rfl

theorem advance_of_done {a : Action} (h : p.stage i = .done a) : e.advance calls p i = p := by
  rw [advance, h]

/-- A step of one call leaves the other calls where they are. -/
theorem stage_advance_of_ne (h : j ≠ i) : (e.advance calls p i).stage j = p.stage j := by
  rw [advance]
  split
  · exact Function.update_of_ne h _ _
  · split <;> exact Function.update_of_ne h _ _
  · exact Function.update_of_ne h _ _
  · rfl

theorem stage_foldl_of_notMem {schedule : List ι} (h : j ∉ schedule) :
    (schedule.foldl (e.advance calls) p).stage j = p.stage j := by
  induction schedule generalizing p with
  | nil => rfl
  | cons i schedule ih =>
    rw [List.mem_cons, not_or] at h
    rw [List.foldl_cons, ih h.2, stage_advance_of_ne h.1]

/-! ### Calls one after another -/

theorem advance_twice_of_ready (h : p.stage i = .ready (subject (calls i).1 (calls i).2)) :
    let judgement := ({ e with cache := p.cache } : Engine γ).judge (calls i).1 (calls i).2
    let q := [i, i].foldl (e.advance calls) p
    q.stage i = .done judgement.decision.action ∧
      judgement.engine = { e with cache := q.cache } := by
  simp only [List.foldl_cons, List.foldl_nil, judge_decision, uncached_withCache,
    Decision.withAction_action]
  rcases hfind : p.cache.find? (callKey (calls i)) with - | a
  · -- a miss is read, and the second step searches and inserts
    have hmissed : (Function.update p.stage i (.missed (subject (calls i).1 (calls i).2))) i
        = .missed (subject (calls i).1 (calls i).2) := Function.update_self ..
    rw [advance_of_miss h hfind, advance_of_missed hmissed,
      judge_engine_of_none (e := { e with cache := p.cache }) hfind]
    refine ⟨?_, rfl⟩
    rw [callKey] at hfind
    rw [hfind]
    exact Function.update_self ..
  · -- a hit ends the call, so the second step is idle
    have hdone : (Function.update p.stage i (.done a)) i = .done a := Function.update_self ..
    rw [advance_of_hit h hfind, advance_of_done hdone,
      judge_engine_of_some (e := { e with cache := p.cache }) hfind]
    refine ⟨?_, rfl⟩
    rw [callKey] at hfind
    rw [hfind]
    exact hdone

/-- Three steps of a call without a step of another one are the call. -/
theorem advance_thrice (h : p.stage i = Stage.first (calls i)) :
    let judgement := ({ e with cache := p.cache } : Engine γ).judge (calls i).1 (calls i).2
    let q := [i, i, i].foldl (e.advance calls) p
    q.stage i = .done judgement.decision.action ∧
      judgement.engine = { e with cache := q.cache } := by
  rw [Stage.first] at h
  split at h
  · -- a literal has returned after two steps
    obtain ⟨hdone, hengine⟩ := advance_twice_of_ready (e := e) h
    rw [show [i, i, i] = [i, i] ++ [i] from rfl, List.foldl_append, List.foldl_cons,
      List.foldl_nil, advance_of_done hdone]
    exact ⟨hdone, hengine⟩
  · rw [List.foldl_cons, advance_of_asking h]
    exact advance_twice_of_ready (Function.update_self ..)

/-- Calls one after another return what a run decides. -/
theorem stage_sequence {order : List ι} (hnodup : order.Nodup)
    (hp : ∀ i ∈ order, p.stage i = Stage.first (calls i)) :
    order.map ((order.flatMap fun i => [i, i, i]).foldl (e.advance calls) p).stage
      = (({ e with cache := p.cache } : Engine γ).run (order.map calls)).map
          fun d => .done d.action := by
  induction order generalizing p with
  | nil => rfl
  | cons i order ih =>
    obtain ⟨hi, hnodup⟩ := List.nodup_cons.mp hnodup
    obtain ⟨hdone, hengine⟩ := advance_thrice (e := e) (hp i List.mem_cons_self)
    -- the later calls have not begun, and none of their steps touches what this one returned
    have hthen : ∀ j ∈ order, ([i, i, i].foldl (e.advance calls) p).stage j = .first (calls j) := by
      intro j hj
      have hji : j ≠ i := by
        rintro rfl
        exact hi hj
      rw [stage_foldl_of_notMem (by simp [hji]), hp j (List.mem_cons_of_mem _ hj)]
    rw [List.map_cons, List.map_cons, run, List.map_cons, hengine, ← ih hnodup hthen,
      List.flatMap_cons, List.foldl_append, stage_foldl_of_notMem (by simp [hi]), hdone]

end

end Engine

/-! ### What every schedule keeps -/

/-- A call sees its own destination, and what it returned was inserted under its key. -/
def Stage.Sound (call : World γ × String) (inserts : List (String × Action)) : Stage → Prop
  | asking => True
  | ready s => s = Engine.subject call.1 call.2
  | missed s => s = Engine.subject call.1 call.2
  | done a => (callKey call, a) ∈ inserts

theorem Stage.sound_first (call : World γ × String) (inserts : List (String × Action)) :
    (Stage.first call).Sound call inserts := by
  rw [first]
  split
  · rfl
  · trivial

theorem Stage.Sound.cons {call : World γ × String} {inserts : List (String × Action)} {st : Stage}
    (h : st.Sound call inserts) (entry : String × Action) : st.Sound call (entry :: inserts) := by
  cases st with
  | asking => trivial
  | ready s => exact h
  | missed s => exact h
  | done a => exact List.mem_cons_of_mem entry h

namespace Engine

/-- Nothing comes from nowhere: what calls return and what is found in memory
was inserted, and what was inserted under a key is the action that some call
with that key finds on its own. -/
structure Traced (e : Engine γ) (calls : ι → World γ × String) (p : Progress ι) : Prop where
  stage : ∀ i, (p.stage i).Sound (calls i) p.inserts
  cache : ∀ key a, p.cache.find? key = some a → (key, a) ∈ p.inserts
  inserts : ∀ key a, (key, a) ∈ p.inserts → ∃ i, callKey (calls i) = key ∧ e.ownAction (calls i) = a

section
variable [DecidableEq ι] {e : Engine γ} {calls : ι → World γ × String} {p : Progress ι}

omit [DecidableEq ι] in
theorem traced_start (calls : ι → World γ × String) (hempty : e.cache.entries = []) :
    e.Traced calls (.start calls e.cache) where
  stage i := Stage.sound_first (calls i) []
  cache key a hfind := by
    rw [Progress.start, Cache.find?_of_entries_eq_nil hempty] at hfind
    cases hfind
  inserts _ _ hmem := absurd hmem List.not_mem_nil

/-- A step that inserts nothing. -/
theorem Traced.update (h : e.Traced calls p) {i : ι} {st : Stage}
    (hst : st.Sound (calls i) p.inserts) :
    e.Traced calls { p with stage := Function.update p.stage i st } where
  stage := (Function.forall_update_iff p.stage fun j st => st.Sound (calls j) p.inserts).mpr
    ⟨hst, fun j _ => h.stage j⟩
  cache := h.cache
  inserts := h.inserts

theorem Traced.advance (h : e.Traced calls p) (i : ι) : e.Traced calls (e.advance calls p i) := by
  have hi := h.stage i
  rcases hstage : p.stage i with - | s | s | a <;> rw [hstage] at hi
  · rw [advance_of_asking hstage]
    exact h.update rfl
  · rcases hfind : p.cache.find? (callKey (calls i)) with - | a
    · rw [advance_of_miss hstage hfind]
      exact h.update hi
    · rw [advance_of_hit hstage hfind]
      exact h.update (h.cache _ _ hfind)
  · obtain rfl := hi
    rw [advance_of_missed hstage]
    refine ⟨?_, fun key a hfind => ?_, fun key a hmem => ?_⟩
    · exact (Function.forall_update_iff p.stage fun j st => st.Sound (calls j) _).mpr
        ⟨List.mem_cons_self, fun j _ => (h.stage j).cons _⟩
    · -- an insertion may push others out, and brings in no other entry than its own
      have hkeep := Cache.find?_of_find?_insert hfind
      split at hkeep
      · rename_i hkey
        rw [hkey, hkeep]
        exact List.mem_cons_self
      · exact List.mem_cons_of_mem _ (h.cache key a hkeep)
    · rcases List.mem_cons.mp hmem with hnew | hold
      · obtain ⟨rfl, rfl⟩ := Prod.mk.inj hnew
        exact ⟨i, rfl, rfl⟩
      · exact h.inserts key a hold
  · rw [advance_of_done hstage]
    exact h

theorem Traced.foldl (h : e.Traced calls p) (schedule : List ι) :
    e.Traced calls (schedule.foldl (e.advance calls) p) := by
  induction schedule generalizing p with
  | nil => exact h
  | cons i schedule ih => exact ih (h.advance i)

theorem traced_progress (calls : ι → World γ × String) (hempty : e.cache.entries = [])
    (schedule : List ι) : e.Traced calls (e.progress calls schedule) :=
  (traced_start calls hempty).foldl schedule

/-! ### Promises about a key -/

section
variable (e) (calls) (key : String)

/-- On their own, all calls with the key find one action. -/
def Unanimous : Prop :=
  ∀ i j, callKey (calls i) = key → callKey (calls j) = key →
    e.ownAction (calls i) = e.ownAction (calls j)

/-- All insertions under the key are of one action, whatever the schedule. -/
def InsertsAgree : Prop :=
  ∀ schedule a b, (key, a) ∈ (e.progress calls schedule).inserts →
    (key, b) ∈ (e.progress calls schedule).inserts → a = b

/-- An action that is remembered under the key is never replaced by another one. -/
def EntryKept : Prop :=
  ∀ schedule later a b, (e.progress calls schedule).cache.find? key = some a →
    (e.progress calls (schedule ++ later)).cache.find? key = some b → a = b

/-- All calls with the key that return give one action. -/
def ResultsAgree : Prop :=
  ∀ schedule i j a b, callKey (calls i) = key → callKey (calls j) = key →
    (e.progress calls schedule).stage i = .done a →
    (e.progress calls schedule).stage j = .done b → a = b

end

section
variable {key : String} (hempty : e.cache.entries = [])
include hempty

/-- Where the calls agree, so does whatever is inserted at any times. -/
theorem Unanimous.eq_of_mem (h : e.Unanimous calls key) {schedule later : List ι} {a b : Action}
    (ha : (key, a) ∈ (e.progress calls schedule).inserts)
    (hb : (key, b) ∈ (e.progress calls later).inserts) : a = b := by
  obtain ⟨i, hi, rfl⟩ := (traced_progress calls hempty schedule).inserts key a ha
  obtain ⟨j, hj, rfl⟩ := (traced_progress calls hempty later).inserts key b hb
  exact h i j hi hj

theorem Unanimous.insertsAgree (h : e.Unanimous calls key) : e.InsertsAgree calls key :=
  fun _ _ _ ha hb => h.eq_of_mem hempty ha hb

theorem Unanimous.entryKept (h : e.Unanimous calls key) : e.EntryKept calls key :=
  fun schedule later _ _ ha hb =>
    h.eq_of_mem hempty ((traced_progress calls hempty schedule).cache _ _ ha)
      ((traced_progress calls hempty (schedule ++ later)).cache _ _ hb)

theorem Unanimous.resultsAgree (h : e.Unanimous calls key) : e.ResultsAgree calls key := by
  intro schedule i j a b hi hj ha hb
  have hia := (traced_progress calls hempty schedule).stage i
  have hjb := (traced_progress calls hempty schedule).stage j
  rw [ha, Stage.Sound, hi] at hia
  rw [hb, Stage.Sound, hj] at hjb
  exact h.eq_of_mem hempty hia hjb

/-! ### Calls that miss together -/

/-- Two calls for host names can both be told that nothing is remembered under their key. -/
theorem progress_both_missed {i j : ι} (hij : i ≠ j) (hi : ZonedIp.ofString? (calls i).2 = none)
    (hj : ZonedIp.ofString? (calls j).2 = none) :
    let p := e.progress calls [i, j, i, j]
    p.cache = e.cache ∧ p.inserts = [] ∧
      p.stage i = .missed (subject (calls i).1 (calls i).2) ∧
      p.stage j = .missed (subject (calls j).1 (calls j).2) := by
  have hfind : ∀ k, e.cache.find? k = none := Cache.find?_of_entries_eq_nil hempty
  simp [progress, Progress.start, advance, Stage.first, hi, hj, hfind, hij, hij.symm]

/-- Then each of them inserts and returns its own action, and the entry of the
first one does not stay. -/
theorem collision {i j : ι} (hij : i ≠ j) (hi : ZonedIp.ofString? (calls i).2 = none)
    (hj : ZonedIp.ofString? (calls j).2 = none) (hkeyi : callKey (calls i) = key)
    (hkeyj : callKey (calls j) = key) :
    let p := e.progress calls [i, j, i, j, i]
    let q := e.progress calls [i, j, i, j, i, j]
    p.cache = e.cache.insert key (e.ownAction (calls i)) ∧
      q.cache = p.cache.insert key (e.ownAction (calls j)) ∧
      q.inserts = [(key, e.ownAction (calls j)), (key, e.ownAction (calls i))] ∧
      q.stage i = .done (e.ownAction (calls i)) ∧ q.stage j = .done (e.ownAction (calls j)) := by
  obtain ⟨hcache, hinserts, hmissedi, hmissedj⟩ :=
    progress_both_missed hempty hij hi hj
  have hp : e.progress calls [i, j, i, j, i]
      = { cache := e.cache.insert key (e.ownAction (calls i))
          inserts := [(key, e.ownAction (calls i))]
          stage := Function.update (e.progress calls [i, j, i, j]).stage i
            (.done (e.ownAction (calls i))) } := by
    show e.advance calls (e.progress calls [i, j, i, j]) i = _
    rw [advance_of_missed hmissedi, hcache, hinserts, hkeyi]
  have hstill : (e.progress calls [i, j, i, j, i]).stage j
      = .missed (subject (calls j).1 (calls j).2) := by
    rw [hp]
    exact (Function.update_of_ne hij.symm _ _).trans hmissedj
  have hq : e.progress calls [i, j, i, j, i, j]
      = e.advance calls (e.progress calls [i, j, i, j, i]) j := rfl
  simp only [hq, advance_of_missed hstill, hkeyj]
  refine ⟨by rw [hp], trivial, by rw [hp], ?_, Function.update_self ..⟩
  rw [Function.update_of_ne hij, hp]
  exact Function.update_self ..

end

/-! ### When calls agree -/

section
variable {key : String} {reader : Option CountryReader}

omit [DecidableEq ι]

/-- Two calls for literals of one address agree, if they ask one database. -/
theorem ownAction_eq_of_literal {c c' : World γ × String} (hreader : e.reader c.1 = e.reader c'.1)
    {a a' : ZonedIp} (hc : ZonedIp.ofString? c.2 = some a) (hc' : ZonedIp.ofString? c'.2 = some a')
    (hip : a.ip = a'.ip) : e.ownAction c = e.ownAction c' := by
  rw [ownAction, ownAction, uncached_of_literal hc, uncached_of_literal hc', hreader, hip]

/-- Two calls for a host name agree if they are given the same address, or both none. -/
theorem ownAction_eq_of_answer {s : String} {w w' : World γ} (hreader : e.reader w = e.reader w')
    (hs : ZonedIp.ofString? s = none)
    (hanswer : (w.resolve s).toOption.map Ip.canonical = (w'.resolve s).toOption.map Ip.canonical) :
    e.ownAction (w, s) = e.ownAction (w', s) := by
  rw [ownAction, ownAction, ← search_subject_fst, ← search_subject_fst, search_fst, search_fst,
    subject_of_host hs, subject_of_host hs, hanswer, hreader]

/-- With one database, only calls for host names have to be looked at. -/
theorem unanimous_of_hosts (hreader : ∀ i, e.reader (calls i).1 = reader)
    (h : ∀ i j, i ≠ j →
      ZonedIp.ofString? (calls i).2 = none → ZonedIp.ofString? (calls j).2 = none →
      callKey (calls i) = key → callKey (calls j) = key →
      e.ownAction (calls i) = e.ownAction (calls j)) :
    e.Unanimous calls key := by
  intro i j hi hj
  by_cases hij : i = j
  · rw [hij]
  · -- one key means one address or one name, but never a literal and a name
    rcases Destination.key_eq_iff.mp (hi.trans hj.symm) with ⟨a, a', ha, ha', hip⟩ | ⟨hs, ht, -⟩
    · exact ownAction_eq_of_literal ((hreader i).trans (hreader j).symm) ha ha' hip
    · exact h i j hij hs ht hi hj

theorem unanimous_of_literal (hreader : ∀ i, e.reader (calls i).1 = reader)
    (hkey : (ZonedIp.ofString? key).isSome) : e.Unanimous calls key := by
  refine unanimous_of_hosts hreader fun i j _ hs _ hi _ => ?_
  rw [← hi, callKey, Destination.key_host hs, hs] at hkey
  cases hkey

theorem unanimous_of_answers (hreader : ∀ i, e.reader (calls i).1 = reader)
    (hanswers : ∀ i j, (calls i).2 = key → (calls j).2 = key →
      ((calls i).1.resolve key).toOption.map Ip.canonical
        = ((calls j).1.resolve key).toOption.map Ip.canonical) :
    e.Unanimous calls key := by
  refine unanimous_of_hosts hreader fun i j _ hs ht hi hj => ?_
  rw [callKey, Destination.key_host hs] at hi
  rw [callKey, Destination.key_host ht] at hj
  have hcalli : calls i = ((calls i).1, key) := Prod.ext rfl hi
  have hcallj : calls j = ((calls j).1, key) := Prod.ext rfl hj
  rw [hcalli, hcallj]
  exact ownAction_eq_of_answer ((hreader i).trans (hreader j).symm) (hi ▸ hs) (hanswers i j hi hj)

end

end

end Engine

/-! ### Built engines -/

/-- **Calls that miss together are harmless exactly if each of them would have
found the same.**  Take any calls that share a built engine and one database,
the resolver answering each of them as it likes.  All insertions under a key
agree in every schedule if the calls with that key agree on their own, and only
then; likewise all results, and, if there is room at all, the entry stays as it
was stored.  The calls do agree if the key is that of a literal, or if they
are given the same address for the name, or none of them is given any. -/
theorem misses_harmless_iff [DecidableEq ι] {b : Builder} {openDatabase : Except LoadError γ}
    {e : Engine γ} (hb : b.build (m := Id) openDatabase = .ok e) (calls : ι → World γ × String)
    {reader : Option CountryReader} (hreader : ∀ i, e.reader (calls i).1 = reader) (key : String) :
    (e.InsertsAgree calls key ↔ e.Unanimous calls key) ∧
    (e.ResultsAgree calls key ↔ e.Unanimous calls key) ∧
    (e.Unanimous calls key → e.EntryKept calls key) ∧
    (b.capacity ≠ 0 → e.EntryKept calls key → e.Unanimous calls key) ∧
    ((ZonedIp.ofString? key).isSome → e.Unanimous calls key) ∧
    ((∀ i j, (calls i).2 = key → (calls j).2 = key →
        ((calls i).1.resolve key).toOption.map Ip.canonical
          = ((calls j).1.resolve key).toOption.map Ip.canonical) →
      e.Unanimous calls key) := by
  obtain ⟨database, rfl⟩ := Engine.eq_toEngine_of_build hb
  have hempty : (b.toEngine database).cache.entries = [] := rfl
  refine ⟨⟨fun h => ?_, fun h => h.insertsAgree hempty⟩,
    ⟨fun h => ?_, fun h => h.resultsAgree hempty⟩, fun h => h.entryKept hempty,
    fun hroom h => ?_, Engine.unanimous_of_literal hreader, Engine.unanimous_of_answers hreader⟩
  -- a promise that is kept on the schedule on which two calls collide makes them agree
  · refine Engine.unanimous_of_hosts hreader fun i j hij hs ht hi hj => ?_
    obtain ⟨-, -, hinserts, -, -⟩ := Engine.collision hempty hij hs ht hi hj
    exact h [i, j, i, j, i, j] _ _ (by simp [hinserts]) (by simp [hinserts])
  · refine Engine.unanimous_of_hosts hreader fun i j hij hs ht hi hj => ?_
    obtain ⟨-, -, -, hdonei, hdonej⟩ := Engine.collision hempty hij hs ht hi hj
    exact h [i, j, i, j, i, j] i j _ _ hi hj hdonei hdonej
  · refine Engine.unanimous_of_hosts hreader fun i j hij hs ht hi hj => ?_
    obtain ⟨hfirst, hsecond, -, -, -⟩ := Engine.collision hempty hij hs ht hi hj
    refine h [i, j, i, j, i] [j] _ _ ?_ ?_
    · rw [hfirst]
      exact Cache.find?_insert_self hroom _ _
    · refine (congrArg (fun c => c.find? key) hsecond).trans (Cache.find?_insert_self ?_ _ _)
      rw [hfirst]
      exact hroom

/-- The name has moved to another address. -/
def Sample.movedWorld : World Unit := { world with resolve := fun _ => .ok (.v4 0x0B000001#32) }

/-- Two calls for one name, of which the second is told another address. -/
def Sample.twoCalls : Fin 2 → World Unit × String
  | 0 => (world, "a.test")
  | 1 => (movedWorld, "a.test")

/-- Under the name no promise is kept; under the key of a literal there is nothing to break. -/
theorem misses_harmless_iff_sample :
    let e := Sample.roomyBuilder.toEngine (some ())
    ¬ e.InsertsAgree Sample.twoCalls "a.test" ∧ ¬ e.ResultsAgree Sample.twoCalls "a.test" ∧
    ¬ e.EntryKept Sample.twoCalls "a.test" ∧ e.InsertsAgree Sample.twoCalls "10.0.0.1" := by
  intro e
  have hb : Sample.roomyBuilder.build (m := Id) (.ok ()) = .ok e := rfl
  have hreader : ∀ i, e.reader (Sample.twoCalls i).1 = some (Sample.world.country ()) := by
    intro i
    fin_cases i <;> rfl
  obtain ⟨hinserts, hresults, -, hkept, -, -⟩ :=
    misses_harmless_iff hb Sample.twoCalls hreader "a.test"
  obtain ⟨hliteral, -, -, -, hagree, -⟩ :=
    misses_harmless_iff hb Sample.twoCalls hreader "10.0.0.1"
  have hdiffer : ¬ e.Unanimous Sample.twoCalls "a.test" := by
    intro h
    exact absurd (h 0 1 (by decide +kernel) (by decide +kernel)) (by decide +kernel)
  refine ⟨fun h => hdiffer (hinserts.mp h), fun h => hdiffer (hresults.mp h),
    fun h => hdiffer (hkept (by decide) h), hliteral.mpr (hagree (by decide +kernel))⟩

/-- There is room for both actions, and one database.  Still both calls insert
under the one name, the second in place of the first, and return what they inserted. -/
theorem misses_replace_each_other :
    let e := Sample.roomyBuilder.toEngine (some ())
    let before := e.progress Sample.twoCalls [0, 1, 0, 1, 0]
    let after := e.progress Sample.twoCalls [0, 1, 0, 1, 0, 1]
    (∀ i, e.reader (Sample.twoCalls i).1 = some (Sample.world.country ())) ∧
    before.cache.find? "a.test" = some .block ∧ after.cache.find? "a.test" = some .direct ∧
    after.inserts = [("a.test", .direct), ("a.test", .block)] ∧
    after.stage 0 = .done .block ∧ after.stage 1 = .done .direct := by
  refine ⟨?_, by decide +kernel⟩
  intro i
  fin_cases i <;> rfl

end EgressPolicy
