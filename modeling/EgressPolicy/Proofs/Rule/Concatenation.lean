/-
EgressPolicy/Proofs/Rule/Concatenation.lean

Rule files one behind the other, and the numbers of their lines.

With a line feed between two files, the lines of the whole are those of the
first file and then those of the second, however the first one ends.  Reading
goes through them in this order (`parseLines_append`), so a fault of the first
file is all that is found, and otherwise the second file is read as it would be
alone, only that its lines come later (`parseLines_add`).

Where a line stands is said without cutting the text (`Text.IsLine`): its
number is one more than the line feeds in front of it.  The number that is
reported is that of the first line that is to hold a rule and holds none
(`parse_eq_error_iff_firstRefused`).
-/
import Mathlib
import EgressPolicy.Proofs.Text.Pieces
import EgressPolicy.Proofs.Rule.Lines

namespace EgressPolicy

/-! ### Places of lines -/

namespace Text

/-- `line` is the line of a text under a number, counted from one.  Line feeds
end lines, so there is none in the line, one right in front of it unless the
text starts with it, and one right behind it unless the text ends with it; and
its number counts those in front. -/
def IsLine (text : List Char) (number : Nat) (line : List Char) : Prop :=
  ∃ before after, text = before ++ (line ++ after) ∧ '\n' ∉ line ∧
    (∀ c ∈ before.getLast?, c = '\n') ∧ (∀ c ∈ after.head?, c = '\n') ∧
    number = before.count '\n' + 1

theorem IsLine.exists_succ {text line : List Char} {number : Nat} (h : IsLine text number line) :
    ∃ i, number = i + 1 := by
  obtain ⟨before, -, -, -, -, -, rfl⟩ := h
  exact ⟨_, rfl⟩

/-- Up to the first line feed, a text is its first line. -/
theorem getElem?_zero_splitOn_feed {line after : List Char} (hline : '\n' ∉ line)
    (hafter : ∀ c ∈ after.head?, c = '\n') : ((line ++ after).splitOn '\n')[0]? = some line := by
  rcases after with - | ⟨c, after⟩
  · rw [List.append_nil, List.splitOn_eq_singleton hline]
    rfl
  · obtain rfl : c = '\n' := hafter c rfl
    rw [List.splitOn_append_cons_self_of_not_mem hline]
    rfl

theorem IsLine.getElem?_splitOn {text line : List Char} {i : Nat} (h : IsLine text (i + 1) line) :
    (text.splitOn '\n')[i]? = some line := by
  obtain ⟨before, after, rfl, hline, hbefore, hafter, hi⟩ := h
  have hfirst := getElem?_zero_splitOn_feed hline hafter
  rcases List.eq_nil_or_concat' before with rfl | ⟨before, c, rfl⟩
  · obtain rfl : i = 0 := by simpa using hi
    exact hfirst
  · -- the line feed right in front ends as many lines as there are in front
    obtain rfl : c = '\n' := hbefore c List.getLast?_concat
    have hi : i = (before.splitOn '\n').length := by
      rw [length_splitOn]
      simpa using hi
    rw [List.append_assoc, List.singleton_append, List.splitOn_append_cons_self,
      List.getElem?_append_right (le_of_eq hi.symm), hi, Nat.sub_self]
    exact hfirst

/-- With a line more in front of them, lines come one later. -/
theorem IsLine.behind {here later line : List Char} {number : Nat} (h : IsLine later number line)
    (hhere : '\n' ∉ here) : IsLine (here ++ '\n' :: later) (number + 1) line := by
  obtain ⟨before, after, rfl, hline, hbefore, hafter, rfl⟩ := h
  refine ⟨here ++ '\n' :: before, after, by simp, hline, ?_, hafter, ?_⟩
  · intro c hc
    rw [List.getLast?_append_cons, List.getLast?_cons] at hc
    rcases hlast : before.getLast? with - | d
    · simpa [hlast, eq_comm] using hc
    · obtain rfl : d = c := by simpa [hlast] using hc
      exact hbefore d hlast
  · rw [List.count_append, List.count_eq_zero.mpr hhere, List.count_cons_self]
    omega

theorem isLine_of_getElem?_splitOn {text line : List Char} {i : Nat}
    (h : (text.splitOn '\n')[i]? = some line) : IsLine text (i + 1) line := by
  induction i generalizing text with
  | zero =>
    by_cases hfeed : '\n' ∈ text
    · obtain ⟨here, later, rfl, hhere⟩ := List.eq_append_cons_of_mem hfeed
      rw [getElem?_zero_splitOn_feed hhere (by simp)] at h
      cases h
      exact ⟨[], '\n' :: later, rfl, hhere, by simp, by simp, rfl⟩
    · rw [List.splitOn_eq_singleton hfeed] at h
      cases h
      exact ⟨[], [], by simp, hfeed, by simp, by simp, rfl⟩
  | succ i ih =>
    by_cases hfeed : '\n' ∈ text
    · obtain ⟨here, later, rfl, hhere⟩ := List.eq_append_cons_of_mem hfeed
      rw [List.splitOn_append_cons_self_of_not_mem hhere, List.getElem?_cons_succ] at h
      exact (ih h).behind hhere
    · -- there is one line only
      rw [List.splitOn_eq_singleton hfeed] at h
      simp at h

/-- The line under a number is the piece at its place. -/
theorem isLine_succ_iff {text line : List Char} {i : Nat} :
    IsLine text (i + 1) line ↔ (text.splitOn '\n')[i]? = some line :=
  ⟨IsLine.getElem?_splitOn, isLine_of_getElem?_splitOn⟩

end Text

namespace RuleFile

open Text

/-! ### Lines that are passed over -/

/-- The line is to hold no rule, or it holds one. -/
def Passed (line : List Char) : Prop :=
  isSilent line = true ∨ ∃ r, Rule.parse (String.ofList line) = .ok r

/-- The line is to hold a rule and holds none. -/
def Refused (line : List Char) (cause : RuleError) : Prop :=
  isSilent line = false ∧ Rule.parse (String.ofList line) = .error cause

/-- The fault is that of the first line that is refused, under its number. -/
def FirstRefused (content : String) (e : LineError) : Prop :=
  ∃ line, IsLine content.toList e.line line ∧ Refused line e.cause ∧
    ∀ number < e.line, ∀ earlier, IsLine content.toList number earlier → Passed earlier

theorem passed_or_refused (line : List Char) : Passed line ∨ ∃ cause, Refused line cause := by
  rcases hsilent : isSilent line with - | -
  · rcases hrule : Rule.parse (String.ofList line) with cause | r
    · exact .inr ⟨cause, hsilent, hrule⟩
    · exact .inl (.inr ⟨r, hrule⟩)
  · exact .inl (.inl hsilent)

theorem Refused.not_passed {line : List Char} {cause : RuleError} (h : Refused line cause) :
    ¬ Passed line := by
  rintro (hsilent | ⟨r, hr⟩)
  · simp [h.1] at hsilent
  · simp [h.2] at hr

theorem parseLines_cons_of_refused {line : List Char} {cause : RuleError} (h : Refused line cause)
    (number : Nat) (lines : List (List Char)) :
    parseLines number (line :: lines) = .error ⟨number, cause⟩ := by
  rw [parseLines, if_neg (by simp [h.1]), h.2]

/-- Behind a line that is passed over the same fault is found as without it. -/
theorem parseLines_cons_eq_error_iff {line : List Char} (h : Passed line) {number : Nat}
    {lines : List (List Char)} {e : LineError} :
    parseLines number (line :: lines) = .error e ↔ parseLines (number + 1) lines = .error e := by
  rw [parseLines]
  split
  · exact Iff.rfl
  · rename_i hsilent
    obtain ⟨r, hr⟩ := h.resolve_left hsilent
    rw [hr]
    rcases parseLines (number + 1) lines with e' | rules <;> simp [Except.map]

/-- Consecutive lines fail by the first of them that is refused. -/
theorem parseLines_eq_error_iff {number : Nat} {lines : List (List Char)} {e : LineError} :
    parseLines number lines = .error e ↔
      ∃ i line, lines[i]? = some line ∧ Refused line e.cause ∧ e.line = number + i ∧
        ∀ j < i, ∀ earlier, lines[j]? = some earlier → Passed earlier := by
  induction lines generalizing number with
  | nil => simp [parseLines]
  | cons line lines ih =>
    rcases passed_or_refused line with hpassed | ⟨cause, hrefused⟩
    · rw [parseLines_cons_eq_error_iff hpassed, ih]
      constructor
      · rintro ⟨i, bad, hbad, hrefused, hnumber, hearlier⟩
        refine ⟨i + 1, bad, hbad, hrefused, by omega, ?_⟩
        intro j hj earlier hline
        rcases j with - | j
        · obtain rfl : line = earlier := Option.some.inj hline
          exact hpassed
        · exact hearlier j (by omega) earlier hline
      · rintro ⟨i, bad, hbad, hrefused, hnumber, hearlier⟩
        rcases i with - | i
        · obtain rfl : line = bad := Option.some.inj hbad
          exact absurd hpassed hrefused.not_passed
        · exact ⟨i, bad, hbad, hrefused, by omega,
            fun j hj earlier hline => hearlier (j + 1) (by omega) earlier hline⟩
    · rw [parseLines_cons_of_refused hrefused]
      constructor
      · intro h
        cases h
        exact ⟨0, line, rfl, hrefused, rfl, by simp⟩
      · rintro ⟨i, bad, hbad, hrefused', hnumber, hearlier⟩
        rcases i with - | i
        · obtain rfl : line = bad := Option.some.inj hbad
          have hcause := Except.error.inj (hrefused.2.symm.trans hrefused'.2)
          rw [hcause, ← Nat.add_zero number, ← hnumber]
        · exact absurd (hearlier 0 (by omega) line rfl) hrefused.not_passed

/-- A file fails by its first line that is refused. -/
theorem parse_eq_error_iff_firstRefused {content : String} {e : LineError} :
    parse content = .error e ↔ FirstRefused content e := by
  rw [parse, parseLines_eq_error_iff]
  constructor
  · rintro ⟨i, line, hline, hrefused, hnumber, hearlier⟩
    rw [Nat.add_comm] at hnumber
    refine ⟨line, hnumber ▸ isLine_succ_iff.mpr hline, hrefused, ?_⟩
    intro number hlt earlier h
    obtain ⟨j, rfl⟩ := h.exists_succ
    exact hearlier j (by omega) earlier (isLine_succ_iff.mp h)
  · rintro ⟨line, hline, hrefused, hearlier⟩
    obtain ⟨i, hi⟩ := hline.exists_succ
    rw [hi] at hline
    exact ⟨i, line, isLine_succ_iff.mp hline, hrefused, by omega,
      fun j hj earlier h => hearlier (j + 1) (by omega) earlier (isLine_succ_iff.mpr h)⟩

/-! ### One file behind another -/

/-- The same lines under higher numbers. -/
theorem parseLines_add (number k : Nat) (lines : List (List Char)) :
    parseLines (number + k) lines
      = (parseLines number lines).mapError fun e => ⟨e.line + k, e.cause⟩ := by
  induction lines generalizing number with
  | nil => rfl
  | cons line lines ih =>
    rw [parseLines, parseLines, Nat.add_right_comm, ih]
    split
    · rfl
    · rcases Rule.parse (String.ofList line) with cause | r
      · rfl
      · rcases parseLines (number + 1) lines with e | rules <;> rfl

theorem spoken_append (number : Nat) (xs ys : List (List Char)) :
    spoken number (xs ++ ys) = spoken number xs ++ spoken (number + xs.length) ys := by
  rw [spoken, List.zipIdx_append, List.filterMap_append]
  rfl

/-- More lines are read behind those that there are. -/
theorem parseLines_append (number : Nat) (xs ys : List (List Char)) :
    parseLines number (xs ++ ys)
      = (do
        let rx ← parseLines number xs
        let ry ← parseLines (number + xs.length) ys
        return rx ++ ry : Except LineError (List Rule)) := by
  rw [parseLines_eq_mapM, spoken_append, List.mapM_append, ← parseLines_eq_mapM,
    ← parseLines_eq_mapM]

/-- **Two rule files with a line feed between them** hold the rules of the
first one and then those of the second.  A fault of the first is the fault of
the whole; one of the second, if the first has none, is found again with its
number raised by the lines of the first.  And in any file the fault that is
reported is that of the first line that is refused, under its number. -/
theorem parse_append_feed (a b : String) :
    (parse (a ++ "\n" ++ b) =
      match parse a, parse b with
      | .error e, _ => .error e
      | .ok ra, .ok rb => .ok (ra ++ rb)
      | .ok _, .error e => .error ⟨e.line + (a.toList.count '\n' + 1), e.cause⟩) ∧
    ∀ content e, parse content = .error e ↔ FirstRefused content e := by
  refine ⟨?_, fun content e => parse_eq_error_iff_firstRefused⟩
  have hlines : (a ++ "\n" ++ b).toList.splitOn '\n'
      = a.toList.splitOn '\n' ++ b.toList.splitOn '\n' := by
    have htext : (a ++ "\n" ++ b).toList = a.toList ++ '\n' :: b.toList := by simp
    rw [htext, List.splitOn_append_cons_self]
  rw [parse, hlines, parseLines_append, length_splitOn, parseLines_add, ← parse, ← parse]
  rcases parse a with e | ra
  · rfl
  · rcases parse b with e | rb <;> rfl

end RuleFile
end EgressPolicy
