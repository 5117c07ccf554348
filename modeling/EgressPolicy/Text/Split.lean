/-
EgressPolicy/Text/Split.lean

Texts cut in two at the first place where a separator stands, or at the last.

Each cut gives back what stands before and after the separator, so the two
parts and the separator make up the text again (`eq_of_cutFirst?`,
`eq_of_cutLast?`).
-/
namespace EgressPolicy.Text

/-- `cs` without `sep` in front, if it starts with it. -/
def dropStart? : List Char → List Char → Option (List Char)
  | [], cs => some cs
  | _ :: _, [] => none
  | s :: sep, c :: cs => if s = c then dropStart? sep cs else none

/-- The parts of `cs` before and after the first place where `sep` stands. -/
def cutFirst? (sep : List Char) : List Char → Option (List Char × List Char)
  | [] => (dropStart? sep []).map fun rest => ([], rest)
  | c :: cs =>
    match dropStart? sep (c :: cs) with
    | some rest => some ([], rest)
    | none => (cutFirst? sep cs).map fun p => (c :: p.1, p.2)

/-- The parts of `cs` before and after the last `sep` in it. -/
def cutLast? (sep : Char) : List Char → Option (List Char × List Char)
  | [] => none
  | c :: cs =>
    match cutLast? sep cs with
    | some (before, after) => some (c :: before, after)
    | none => if c = sep then some ([], cs) else none

theorem eq_of_dropStart? {sep cs rest : List Char} (h : dropStart? sep cs = some rest) :
    cs = sep ++ rest := by
  induction sep generalizing cs with
  | nil => simpa [dropStart?] using h
  | cons s sep ih =>
    rcases cs with - | ⟨c, cs⟩
    · simp [dropStart?] at h
    · by_cases hc : s = c
      · simp only [dropStart?, hc, if_true] at h
        rw [ih h, hc, List.cons_append]
      · simp [dropStart?, hc] at h

@[simp] theorem dropStart?_append (sep rest : List Char) :
    dropStart? sep (sep ++ rest) = some rest := by
  induction sep with
  | nil => rfl
  | cons s sep ih => simp [dropStart?, ih]

theorem eq_of_cutFirst? {sep cs before after : List Char}
    (h : cutFirst? sep cs = some (before, after)) : cs = before ++ sep ++ after := by
  induction cs generalizing before with
  | nil =>
    rcases e : dropStart? sep [] with - | rest
    · simp [cutFirst?, e] at h
    · simp only [cutFirst?, e, Option.map_some, Option.some.injEq, Prod.mk.injEq] at h
      obtain ⟨rfl, rfl⟩ := h
      simpa using eq_of_dropStart? e
  | cons c cs ih =>
    rcases e : dropStart? sep (c :: cs) with - | rest
    · simp only [cutFirst?, e, Option.map_eq_some_iff, Prod.mk.injEq] at h
      obtain ⟨⟨b, a⟩, hp, rfl, rfl⟩ := h
      simpa using ih hp
    · simp only [cutFirst?, e, Option.some.injEq, Prod.mk.injEq] at h
      obtain ⟨rfl, rfl⟩ := h
      simpa using eq_of_dropStart? e

theorem cutLast?_eq_none_iff {sep : Char} {cs : List Char} :
    cutLast? sep cs = none ↔ sep ∉ cs := by
  induction cs with
  | nil => simp [cutLast?]
  | cons c cs ih =>
    rcases e : cutLast? sep cs with - | ⟨b, a⟩
    · have hn := ih.1 e
      by_cases hc : c = sep
      · simp [cutLast?, e, hc]
      · simp [cutLast?, e, hc, hn, Ne.symm hc]
    · have hm : sep ∈ cs := by
        apply Classical.byContradiction
        intro hn
        simp [ih.2 hn] at e
      simp [cutLast?, e, hm]

/-- The last separator: the text after it holds none. -/
theorem eq_of_cutLast? {sep : Char} {cs before after : List Char}
    (h : cutLast? sep cs = some (before, after)) :
    cs = before ++ sep :: after ∧ sep ∉ after := by
  induction cs generalizing before with
  | nil => simp [cutLast?] at h
  | cons c cs ih =>
    rcases e : cutLast? sep cs with - | ⟨b, a⟩
    · by_cases hc : c = sep
      · simp only [cutLast?, e, hc, if_true, Option.some.injEq, Prod.mk.injEq] at h
        obtain ⟨rfl, rfl⟩ := h
        exact ⟨by simp [hc], cutLast?_eq_none_iff.1 e⟩
      · simp [cutLast?, e, hc] at h
    · simp only [cutLast?, e, Option.some.injEq, Prod.mk.injEq] at h
      obtain ⟨rfl, rfl⟩ := h
      obtain ⟨h1, h2⟩ := ih e
      exact ⟨by simp [h1], h2⟩

end EgressPolicy.Text
