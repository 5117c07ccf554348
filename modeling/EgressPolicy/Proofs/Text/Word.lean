/-
EgressPolicy/Proofs/Text/Word.lean

Words, which are what a line is cut into, and their letter case.

A word is a text that is not empty and holds no blank.  Words joined by single
spaces are cut into these words again, and whatever a line is cut into are
words.  `CutInto` says without the reader what it means to be cut into words,
and there is one way for it, which is the reader's (`cutInto_iff`).  Changing
the case of letters makes words of words, because no blank is a letter; a text
in small letters is one that lowering leaves alone, and the same with capitals.
-/
import Mathlib
import EgressPolicy.Proofs.Text.Pieces
import EgressPolicy.Rule.Reader

namespace EgressPolicy.Text

/-! ### Words -/

/-- `s` can be a field: it is not empty and has no blanks. -/
def IsWord (s : String) : Prop := s ≠ "" ∧ ∀ c ∈ s.toList, isBlank c = false

-- The instance for the quantifier is named, since search finds the one that
-- goes through all characters there are.
instance (s : String) : Decidable (IsWord s) :=
  @instDecidableAnd _ _ inferInstance (List.decidableBAll _ s.toList)

theorem IsWord.space_notMem {s : String} (h : IsWord s) : ' ' ∉ s.toList := by
  intro hmem
  have hblank := h.2 ' ' hmem
  cases hblank

/-- A stretch between blanks holds none. -/
theorem not_blank_of_mem_splitOnP {cs w : List Char} (h : w ∈ cs.splitOnP isBlank) :
    ∀ c ∈ w, isBlank c = false := by
  induction cs generalizing w with
  | nil =>
    rw [List.splitOnP_nil, List.mem_singleton] at h
    simp [h]
  | cons x cs ih =>
    rw [List.splitOnP_cons_eq_if_modifyHead] at h
    split at h
    · rcases List.mem_cons.mp h with rfl | h
      · simp
      · exact ih h
    · rename_i hx
      obtain ⟨v, vs, hv⟩ := List.exists_cons_of_ne_nil (List.splitOnP_ne_nil isBlank cs)
      rw [hv] at ih h
      rcases List.mem_cons.mp h with rfl | h
      · intro c hc
        rcases List.mem_cons.mp hc with rfl | hc
        · simpa using hx
        · exact ih List.mem_cons_self c hc
      · exact ih (List.mem_cons_of_mem _ h)

/-- What a line is cut into are words. -/
theorem isWord_of_mem_fields {cs : List Char} {s : String}
    (h : s ∈ (fields cs).map String.ofList) : IsWord s := by
  obtain ⟨w, hw, rfl⟩ := List.mem_map.mp h
  constructor
  · intro hempty
    rw [String.ofList_eq_empty_iff] at hempty
    exact nil_notMem_fields cs (hempty ▸ hw)
  · rw [String.toList_ofList]
    exact not_blank_of_mem_splitOnP (List.mem_of_mem_filter hw)

/-- Words between single spaces are cut again where they were joined. -/
theorem fields_intercalate {ws : List String} (h : ∀ w ∈ ws, IsWord w) :
    (fields (" ".intercalate ws).toList).map String.ofList = ws := by
  have hspace : " ".toList = [' '] := by simp
  rw [String.toList_intercalate, hspace, fields_words, List.map_map]
  · simp [Function.comp_def]
  · intro hnil
    obtain ⟨w, hw, hempty⟩ := List.mem_map.mp hnil
    exact (h w hw).1 (String.toList_eq_nil_iff.mp hempty)
  · intro cs hcs
    obtain ⟨w, hw, rfl⟩ := List.mem_map.mp hcs
    exact (h w hw).2

/-! ### Texts cut into words -/

/-- The words stand in the text in their order, each of them up to a blank or
to the end, and there is nothing else in the text but blanks. -/
inductive CutInto : List Char → List String → Prop
  | blank {gap : List Char} : (∀ c ∈ gap, isBlank c = true) → CutInto gap []
  | word {gap rest : List Char} {w : String} {ws : List String} :
      (∀ c ∈ gap, isBlank c = true) → IsWord w → (∀ c ∈ rest.head?, isBlank c = true) →
        CutInto rest ws → CutInto (gap ++ (w.toList ++ rest)) (w :: ws)

/-- A word up to a blank is the first field. -/
theorem fields_word_append {w : String} (hw : IsWord w) {rest : List Char}
    (hrest : ∀ c ∈ rest.head?, isBlank c = true) :
    fields (w.toList ++ rest) = w.toList :: fields rest := by
  have hfields : fields w.toList = [w.toList] :=
    fields_of_no_blank (fun hnil => hw.1 (String.toList_eq_nil_iff.mp hnil)) hw.2
  rcases rest with - | ⟨c, rest⟩
  · rw [List.append_nil, hfields, fields_nil]
  · have hc : isBlank c = true := hrest c rfl
    rw [fields_append_blank _ _ hc, hfields, fields_blank_cons hc, List.singleton_append]

theorem CutInto.fields_eq {cs : List Char} {ws : List String} (h : CutInto cs ws) :
    fields cs = ws.map String.toList := by
  induction h with
  | @blank gap hgap =>
    have hfields := fields_blanks_append hgap []
    rwa [List.append_nil, fields_nil] at hfields
  | word hgap hw hrest _ ih =>
    rw [fields_blanks_append hgap, fields_word_append hw hrest, ih, List.map_cons]

/-- A blank in front leaves the words as they are. -/
theorem CutInto.cons_blank {cs : List Char} {ws : List String} (h : CutInto cs ws) {c : Char}
    (hc : isBlank c = true) : CutInto (c :: cs) ws := by
  cases h with
  | blank hgap => exact .blank (List.forall_mem_cons.mpr ⟨hc, hgap⟩)
  | @word gap rest w ws hgap hw hrest hws =>
    exact @CutInto.word (c :: gap) rest w ws (List.forall_mem_cons.mpr ⟨hc, hgap⟩) hw hrest hws

/-- Another character in front is a word of its own or starts the first word. -/
theorem CutInto.exists_cons_of_not_blank {cs : List Char} {ws : List String} (h : CutInto cs ws)
    {c : Char} (hc : isBlank c = false) : ∃ ws', CutInto (c :: cs) ws' := by
  by_cases hhead : ∀ x ∈ cs.head?, isBlank x = true
  · have hword : IsWord (String.ofList [c]) := ⟨by simp, by simp [hc]⟩
    have hcut := @CutInto.word [] cs _ ws (by simp) hword hhead h
    rw [String.toList_ofList] at hcut
    exact ⟨_, hcut⟩
  · cases h with
    | @blank gap hgap =>
      refine absurd (fun x hx => hgap x ?_) hhead
      exact List.mem_of_mem_head? hx
    | @word gap rest w ws hgap hw hrest hws =>
      -- the text starts with the word, for otherwise it would start with a blank
      rcases gap with - | ⟨x, gap⟩
      · have hword : IsWord (String.ofList (c :: w.toList)) := by
          refine ⟨by simp, ?_⟩
          rw [String.toList_ofList]
          exact List.forall_mem_cons.mpr ⟨hc, hw.2⟩
        have hcut := @CutInto.word [] rest _ ws (by simp) hword hrest hws
        rw [String.toList_ofList] at hcut
        exact ⟨_, hcut⟩
      · refine absurd (fun y hy => ?_) hhead
        obtain rfl : x = y := by simpa using hy
        exact hgap x List.mem_cons_self

theorem exists_cutInto (cs : List Char) : ∃ ws, CutInto cs ws := by
  induction cs with
  | nil => exact ⟨[], .blank (by simp)⟩
  | cons c cs ih =>
    obtain ⟨ws, hws⟩ := ih
    rcases hc : isBlank c with - | -
    · exact hws.exists_cons_of_not_blank hc
    · exact ⟨ws, hws.cons_blank hc⟩

/-- There is one way to cut a text into words, and it is that of the reader. -/
theorem cutInto_iff {cs : List Char} {ws : List String} :
    CutInto cs ws ↔ (fields cs).map String.ofList = ws := by
  have hfields : ∀ {ws}, CutInto cs ws → (fields cs).map String.ofList = ws := by
    intro ws h
    rw [h.fields_eq, List.map_map]
    simp [Function.comp_def]
  constructor
  · exact hfields
  · rintro rfl
    obtain ⟨ws, h⟩ := exists_cutInto cs
    rw [hfields h]
    exact h

/-! ### Letters -/

/-- No letter is blank. -/
theorem not_blank_of_alpha {c : Char} (h : c.isAlpha = true) : isBlank c = false := by
  have hnat : (65 ≤ c.toNat ∧ c.toNat ≤ 90) ∨ (97 ≤ c.toNat ∧ c.toNat ≤ 122) := by
    simpa [Char.isAlpha, Char.isUpper, Char.isLower, UInt32.le_iff_toNat_le, ← Char.toNat_val]
      using h
  simp [isBlank, blankRanges]
  omega

theorem isBlank_toLower (c : Char) : isBlank c.toLower = isBlank c := by
  by_cases h : c.isUpper = true
  · have halpha : c.isAlpha = true := by simp [Char.isAlpha, h]
    rw [not_blank_of_alpha halpha, not_blank_of_alpha (c.isAlpha_toLower_eq_isAlpha.trans halpha)]
  · rw [Char.toLower_eq_of_not_isUpper h]

theorem isBlank_toUpper (c : Char) : isBlank c.toUpper = isBlank c := by
  by_cases h : c.isLower = true
  · have halpha : c.isAlpha = true := by simp [Char.isAlpha, h]
    rw [not_blank_of_alpha halpha, not_blank_of_alpha (c.isAlpha_toUpper_eq_isAlpha.trans halpha)]
  · rw [Char.toUpper_eq_of_not_isLower h]

/-- A word with letters changed is a word, if no letter becomes blank. -/
theorem IsWord.map {s : String} (h : IsWord s) {f : Char → Char}
    (hf : ∀ c, isBlank (f c) = isBlank c) : IsWord (s.map f) := by
  constructor
  · intro hempty
    have hnil := congrArg String.toList hempty
    rw [String.toList_map, String.toList_empty, List.map_eq_nil_iff] at hnil
    exact h.1 (String.toList_eq_nil_iff.mp hnil)
  · intro c hc
    rw [String.toList_map] at hc
    obtain ⟨x, hx, rfl⟩ := List.mem_map.mp hc
    rw [hf]
    exact h.2 x hx

theorem IsWord.lower {s : String} (h : IsWord s) : IsWord (lower s) := h.map isBlank_toLower

theorem IsWord.upper {s : String} (h : IsWord s) : IsWord (upper s) := h.map isBlank_toUpper

/-- No capital is left by lowering. -/
theorem not_isUpper_of_mem_lower {s : String} : ∀ c ∈ (lower s).toList, c.isUpper = false := by
  intro c hc
  rw [toList_lower] at hc
  obtain ⟨x, -, rfl⟩ := List.mem_map.mp hc
  exact x.isUpper_toLower_eq_false

/-- No small letter is left by raising. -/
theorem not_isLower_of_mem_upper {s : String} : ∀ c ∈ (upper s).toList, c.isLower = false := by
  intro c hc
  rw [toList_upper] at hc
  obtain ⟨x, -, rfl⟩ := List.mem_map.mp hc
  exact x.isLower_toUpper_eq_false

/-- A text without capitals is left alone by lowering. -/
theorem lower_eq_self {s : String} (h : ∀ c ∈ s.toList, c.isUpper = false) : lower s = s := by
  rw [← String.toList_inj, toList_lower]
  have hid : ∀ c ∈ s.toList, c.toLower = id c := fun c hc =>
    Char.toLower_eq_of_not_isUpper (by simp [h c hc])
  rw [List.map_congr_left hid, List.map_id]

/-- A text without small letters is left alone by raising. -/
theorem upper_eq_self {s : String} (h : ∀ c ∈ s.toList, c.isLower = false) : upper s = s := by
  rw [← String.toList_inj, toList_upper]
  have hid : ∀ c ∈ s.toList, c.toUpper = id c := fun c hc =>
    Char.toUpper_eq_of_not_isLower (by simp [h c hc])
  rw [List.map_congr_left hid, List.map_id]

end EgressPolicy.Text
