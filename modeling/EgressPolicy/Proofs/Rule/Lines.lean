/-
EgressPolicy/Proofs/Rule/Lines.lean

A rule file as the list of its lines that are to hold a rule.

`ruleLines` numbers all lines and drops the silent ones.  Reading a file is
reading each of these (`parse_eq_mapM`), so a file has rules if each of them is
a rule (`parse_eq_ok_iff`), and it is refused for the first of them that is
none, under that line's number (`parse_eq_error_iff`).
-/
import Mathlib
import EgressPolicy.Proofs.Text.Traversal
import EgressPolicy.Rule.File

namespace EgressPolicy.RuleFile

/-- A line and its number in the file. -/
structure NumberedLine where
  number : Nat
  text : String
deriving DecidableEq

/-- Consecutive lines, the first of which has number `number`, without those
that are blank or comments. -/
def spoken (number : Nat) (lines : List (List Char)) : List NumberedLine :=
  (lines.zipIdx number).filterMap fun (line, n) =>
    if isSilent line then none else some ⟨n, String.ofList line⟩

/-- The lines of a file that are to hold a rule. -/
def ruleLines (content : String) : List NumberedLine := spoken 1 (content.toList.splitOn '\n')

/-- The rule of a line, or its fault under the line's number. -/
def NumberedLine.rule (l : NumberedLine) : Except LineError Rule :=
  (Rule.parse l.text).mapError (LineError.mk l.number)

namespace NumberedLine

theorem rule_eq_ok_iff {l : NumberedLine} {r : Rule} :
    l.rule = .ok r ↔ Rule.parse l.text = .ok r :=
  Text.mapError_eq_ok_iff

theorem rule_eq_error_iff {l : NumberedLine} {e : LineError} :
    l.rule = .error e ↔ Rule.parse l.text = .error e.cause ∧ l.number = e.line := by
  obtain ⟨line, cause⟩ := e
  rw [rule]
  rcases Rule.parse l.text with cause' | r' <;> simp [Except.mapError, and_comm]

end NumberedLine

/-- A silent line is counted, and nothing else. -/
theorem spoken_cons_of_silent {line : List Char} (h : isSilent line = true) (number : Nat)
    (lines : List (List Char)) : spoken number (line :: lines) = spoken (number + 1) lines := by
  simp [spoken, List.zipIdx_cons, h]

theorem spoken_cons_of_not_silent {line : List Char} (h : ¬ isSilent line = true) (number : Nat)
    (lines : List (List Char)) :
    spoken number (line :: lines) = ⟨number, String.ofList line⟩ :: spoken (number + 1) lines := by
  simp [spoken, List.zipIdx_cons, h]

/-- Reading consecutive lines is reading one by one those that are not silent. -/
theorem parseLines_eq_mapM (number : Nat) (lines : List (List Char)) :
    parseLines number lines = (spoken number lines).mapM NumberedLine.rule := by
  induction lines generalizing number with
  | nil => rfl
  | cons line lines ih =>
    rw [parseLines, ih]
    split
    · rename_i h
      rw [spoken_cons_of_silent h]
    · rename_i h
      rw [spoken_cons_of_not_silent h, List.mapM_cons, NumberedLine.rule]
      rcases Rule.parse (String.ofList line) with cause | r
      · rfl
      · -- the line is a rule, so the rest decides for both
        show _ = (spoken (number + 1) lines).mapM NumberedLine.rule >>= fun rs => pure (r :: rs)
        rcases (spoken (number + 1) lines).mapM NumberedLine.rule with e | rs <;> rfl

theorem parse_eq_mapM (content : String) :
    parse content = (ruleLines content).mapM NumberedLine.rule :=
  parseLines_eq_mapM 1 _

/-- A file has rules if each of its rule lines is one, and it has them in
the order of the lines. -/
theorem parse_eq_ok_iff {content : String} {rules : List Rule} :
    parse content = .ok rules ↔
      List.Forall₂ (fun l r => Rule.parse l.text = .ok r) (ruleLines content) rules := by
  rw [parse_eq_mapM, Text.mapM_eq_ok_iff]
  simp only [NumberedLine.rule_eq_ok_iff]

/-- A file is refused for its first rule line that is no rule. -/
theorem parse_eq_error_iff {content : String} {e : LineError} :
    parse content = .error e ↔
      ∃ before l after, ruleLines content = before ++ l :: after ∧
        (∀ b ∈ before, ∃ r, Rule.parse b.text = .ok r) ∧
        Rule.parse l.text = .error e.cause ∧ l.number = e.line := by
  rw [parse_eq_mapM, Text.mapM_eq_error_iff]
  simp only [NumberedLine.rule_eq_ok_iff, NumberedLine.rule_eq_error_iff]

end EgressPolicy.RuleFile
