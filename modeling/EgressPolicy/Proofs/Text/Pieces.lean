/-
EgressPolicy/Proofs/Text/Pieces.lean

Texts made of pieces with separators between them, and cut again.

Cutting at single separators undoes joining as soon as no piece holds the
separator; the standard library knows that.  What is added here is how many
pieces there are (`length_splitOn`), the cut at the first *doubled* separator
(`cutFirst?_joined_append`), which needs the pieces to be nonempty as well, and
what the fields of a text are when blanks stand around it
(`fields_blanks_append`, `fields_append_blanks`), when it starts with no blank
(`fields_append_of_no_blank`) or when words stand between single spaces
(`fields_words`).
-/
import Mathlib
import EgressPolicy.Text.Blank
import EgressPolicy.Text.Split

namespace EgressPolicy.Text

/-! ### Joined pieces -/

/-- Every character of joined pieces is the separator or of a piece. -/
theorem mem_of_mem_intercalate {α : Type} {sep c : α} {ps : List (List α)}
    (h : c ∈ [sep].intercalate ps) : c = sep ∨ ∃ p ∈ ps, c ∈ p := by
  induction ps with
  | nil => simp at h
  | cons p ps ih =>
    rcases ps with - | ⟨q, ps⟩
    · simp only [List.intercalate_singleton] at h
      exact .inr ⟨p, by simp, h⟩
    · rw [List.intercalate_cons_cons] at h
      simp only [List.mem_append, List.mem_singleton] at h
      rcases h with (h | h) | h
      · exact .inr ⟨p, by simp, h⟩
      · exact .inl h
      · rcases ih h with h | ⟨x, hx, hc⟩
        · exact .inl h
        · exact .inr ⟨x, List.mem_cons_of_mem _ hx, hc⟩

/-- A character other than the separator is in one of the pieces that a text is cut into. -/
theorem exists_mem_splitOn (sep : Char) {c : Char} {cs : List Char} (hc : c ∈ cs) (hne : c ≠ sep) :
    ∃ p ∈ cs.splitOn sep, c ∈ p := by
  have hjoin : [sep].intercalate (cs.splitOn sep) = cs := List.intercalate_splitOn sep
  rw [← hjoin] at hc
  rcases mem_of_mem_intercalate hc with h | h
  · exact absurd h hne
  · exact h

/-- A text is cut into one piece more than it has separators. -/
theorem length_splitOn (sep : Char) (cs : List Char) :
    (cs.splitOn sep).length = cs.count sep + 1 := by
  induction cs with
  | nil => rfl
  | cons c cs ih =>
    rw [List.splitOn_eq_splitOnP] at ih ⊢
    rw [List.splitOnP_cons_eq_if_modifyHead]
    by_cases hc : c = sep <;> simp [hc, ih]

/-! ### Pieces read one by one -/

/-- If what is made of every item reads back, the whole list reads back. -/
theorem mapM_eq_some_of_forall {α β : Type} {f : α → Option β} {g : β → α} {xs : List β}
    (h : ∀ x ∈ xs, f (g x) = some x) : (xs.map g).mapM f = some xs := by
  induction xs with
  | nil => rfl
  | cons x xs ih =>
    rw [List.map_cons, List.mapM_cons, h x List.mem_cons_self,
      ih fun y hy => h y (List.mem_cons_of_mem _ hy)]
    rfl

/-- If each piece that one reader reads is read alike by another, whole lists are too. -/
theorem mapM_eq_some_of_imp {α β : Type} {f g : α → Option β} {xs : List α} {ys : List β}
    (h : ∀ x y, f x = some y → g x = some y) (hf : xs.mapM f = some ys) :
    xs.mapM g = some ys := by
  induction xs generalizing ys with
  | nil => simpa using hf
  | cons x xs ih =>
    rw [List.mapM_cons] at hf ⊢
    obtain ⟨y, hy, hf⟩ := Option.bind_eq_some_iff.mp hf
    obtain ⟨zs, hzs, hf⟩ := Option.bind_eq_some_iff.mp hf
    rw [h x y hy, ih hzs]
    exact hf

/-- One piece that does not read makes the whole list unreadable. -/
theorem mapM_eq_none_of_mem {α β : Type} {f : α → Option β} {xs : List α} {x : α}
    (hx : x ∈ xs) (h : f x = none) : xs.mapM f = none := by
  induction xs with
  | nil => cases hx
  | cons y xs ih =>
    rw [List.mapM_cons]
    rcases List.mem_cons.mp hx with rfl | hx
    · rw [h]
      rfl
    · rw [ih hx]
      rcases f y with - | b <;> rfl

/-! ### The first doubled separator -/

/-- A cut passes over a text without the separator. -/
theorem cutFirst?_append_of_not_mem {s : Char} (sep : List Char) {p : List Char} (hp : s ∉ p)
    (cs : List Char) :
    cutFirst? (s :: sep) (p ++ cs)
      = (cutFirst? (s :: sep) cs).map fun q => (p ++ q.1, q.2) := by
  induction p with
  | nil => simp
  | cons c p ih =>
    have hc : s ≠ c := by
      rintro rfl
      simp at hp
    have hp' : s ∉ p := fun h => hp (List.mem_cons_of_mem _ h)
    rw [List.cons_append, cutFirst?, dropStart?, if_neg hc, ih hp', Option.map_map]
    rfl

/-- A single separator is no place to cut at. -/
theorem cutFirst?_single {s c : Char} (hc : c ≠ s) (cs : List Char) :
    cutFirst? [s, s] (s :: c :: cs)
      = (cutFirst? [s, s] (c :: cs)).map fun q => (s :: q.1, q.2) := by
  rw [cutFirst?, dropStart?, if_pos rfl, dropStart?, if_neg (Ne.symm hc)]

/-- A cut at a doubled separator passes over joined pieces, if none of them is empty. -/
theorem cutFirst?_joined_append {s : Char} {ps : List (List Char)} (hne : [] ∉ ps)
    (hs : ∀ p ∈ ps, s ∉ p) (cs : List Char) :
    cutFirst? [s, s] ([s].intercalate ps ++ cs)
      = (cutFirst? [s, s] cs).map fun q => ([s].intercalate ps ++ q.1, q.2) := by
  induction ps with
  | nil => simp
  | cons p ps ih =>
    have hp : s ∉ p := hs p (by simp)
    rcases ps with - | ⟨q, ps⟩
    · simpa using cutFirst?_append_of_not_mem [s] hp cs
    · -- after `p` stands one separator and then the head of the nonempty piece `q`
      rcases q with - | ⟨c, q⟩
      · simp at hne
      have hc : c ≠ s := by
        rintro rfl
        exact hs _ (List.mem_cons_of_mem _ List.mem_cons_self) List.mem_cons_self
      have hcons : ∃ r, [s].intercalate ((c :: q) :: ps) = c :: r := by
        rcases ps with - | ⟨x, ps⟩
        · exact ⟨q, by simp⟩
        · exact ⟨_, by rw [List.intercalate_cons_cons, List.cons_append, List.cons_append]⟩
      obtain ⟨r, hr⟩ := hcons
      have ih' := ih (fun h => hne (List.mem_cons_of_mem _ h))
        (fun x hx => hs x (List.mem_cons_of_mem _ hx))
      rw [List.intercalate_cons_cons, List.append_assoc, List.append_assoc,
        cutFirst?_append_of_not_mem [s] hp, List.singleton_append, hr, List.cons_append,
        cutFirst?_single hc, ← List.cons_append, ← hr, ih']
      simp [Function.comp_def]

/-- Nothing to cut at in joined pieces. -/
theorem cutFirst?_joined {s : Char} {ps : List (List Char)} (hne : [] ∉ ps)
    (hs : ∀ p ∈ ps, s ∉ p) : cutFirst? [s, s] ([s].intercalate ps) = none := by
  have h := cutFirst?_joined_append hne hs []
  rw [List.append_nil] at h
  rw [h]
  rfl

/-- The cut at the one doubled separator. -/
theorem cutFirst?_joined_sep {s : Char} {ps : List (List Char)} (hne : [] ∉ ps)
    (hs : ∀ p ∈ ps, s ∉ p) (cs : List Char) :
    cutFirst? [s, s] ([s].intercalate ps ++ s :: s :: cs) = some ([s].intercalate ps, cs) := by
  rw [cutFirst?_joined_append hne hs, cutFirst?, dropStart?, if_pos rfl, dropStart?, if_pos rfl,
    dropStart?]
  simp

/-! ### Blanks around words -/

/-- Blanks in front change no field. -/
theorem fields_blanks_append {blanks : List Char} (h : ∀ c ∈ blanks, isBlank c = true)
    (cs : List Char) : fields (blanks ++ cs) = fields cs := by
  induction blanks with
  | nil => rfl
  | cons c blanks ih =>
    rw [List.cons_append, fields_blank_cons (h c List.mem_cons_self),
      ih fun x hx => h x (List.mem_cons_of_mem _ hx)]

/-- Blanks at the end change no field. -/
theorem fields_append_blanks {blanks : List Char} (h : ∀ c ∈ blanks, isBlank c = true)
    (cs : List Char) : fields (cs ++ blanks) = fields cs := by
  rcases blanks with - | ⟨c, blanks⟩
  · rw [List.append_nil]
  · have hnone : fields blanks = [] := by
      rw [← List.append_nil blanks,
        fields_blanks_append (fun x hx => h x (List.mem_cons_of_mem _ hx)), fields_nil]
    rw [fields_append_blank _ _ (h c List.mem_cons_self), hnone, List.append_nil]

/-- A character in front that is not blank starts the first field. -/
theorem exists_fields_cons {c : Char} (h : isBlank c = false) (cs : List Char) :
    ∃ w ws, fields (c :: cs) = (c :: w) :: ws := by
  obtain ⟨v, vs, hv⟩ := List.exists_cons_of_ne_nil (List.splitOnP_ne_nil isBlank cs)
  exact ⟨v, vs.filter (· ≠ []), by simp [fields, List.splitOnP_cons_eq_if_modifyHead, h, hv]⟩

/-- A field goes on up to the next blank. -/
theorem fields_append_of_no_blank {w : List Char} (hne : w ≠ [])
    (hw : ∀ c ∈ w, isBlank c = false) (cs : List Char) :
    ∃ rest more, fields (w ++ cs) = (w ++ rest) :: more := by
  induction cs generalizing w with
  | nil => exact ⟨[], [], by rw [List.append_nil, fields_of_no_blank hne hw]⟩
  | cons c cs ih =>
    by_cases hc : isBlank c = true
    · refine ⟨[], fields cs, ?_⟩
      rw [fields_append_blank _ _ hc, fields_of_no_blank hne hw, List.append_nil]
      rfl
    · obtain ⟨rest, more, hfields⟩ := ih (w := w ++ [c]) (by simp) (by
        intro x hx
        rcases List.mem_append.mp hx with hx | hx
        · exact hw x hx
        · simpa [List.mem_singleton.mp hx] using hc)
      exact ⟨c :: rest, more, by simpa using hfields⟩

/-! ### Words -/

/-- The fields of words between single spaces are the words. -/
theorem fields_words {ws : List (List Char)} (hne : [] ∉ ws)
    (hb : ∀ w ∈ ws, ∀ c ∈ w, isBlank c = false) : fields ([' '].intercalate ws) = ws := by
  induction ws with
  | nil => simp
  | cons w ws ih =>
    have hw : fields w = [w] :=
      fields_of_no_blank (fun h => hne (by simp [h])) (hb w List.mem_cons_self)
    have ih' := ih (fun h => hne (List.mem_cons_of_mem _ h))
      (fun x hx => hb x (List.mem_cons_of_mem _ hx))
    rcases ws with - | ⟨v, ws⟩
    · simpa using hw
    · rw [List.intercalate_cons_cons, List.append_assoc, List.singleton_append,
        fields_append_blank w _ (by decide : isBlank ' ' = true), hw, ih', List.singleton_append]

/-- Fields are not empty. -/
theorem nil_notMem_fields (cs : List Char) : [] ∉ fields cs := by
  simp [fields]

end EgressPolicy.Text
