/-
EgressPolicy/Rule/File.lean

Rule files.

A file holds one rule a line.  Lines that are blank, and lines whose first
character that is not blank is `#`, hold none.  The first line that is
neither silent nor a rule makes the whole file fail, with its number counted
from one.

Lines end at line feeds.  A carriage return in front of one needs no care:
it is a blank, and blanks at a line's end are no part of a field.
-/
import EgressPolicy.Rule.Reader

namespace EgressPolicy

/-- The line of a rule file that is at fault, and why. -/
structure LineError where
  line : Nat
  cause : RuleError
deriving DecidableEq

/-- The wording of a line's fault. -/
def LineError.message (e : LineError) : String :=
  "line " ++ toString e.line ++ ": " ++ e.cause.message

namespace RuleFile

/-- The line is blank or a comment. -/
def isSilent (line : List Char) : Bool :=
  match line.dropWhile Text.isBlank with
  | [] => true
  | c :: _ => c == '#'

/-- The rules of consecutive lines, the first of which has number `number`. -/
def parseLines (number : Nat) : List (List Char) → Except LineError (List Rule)
  | [] => .ok []
  | line :: lines =>
    if isSilent line then parseLines (number + 1) lines
    else
      match Rule.parse (String.ofList line) with
      | .error cause => .error ⟨number, cause⟩
      | .ok rule => (parseLines (number + 1) lines).map (rule :: ·)

/-- The rules of a file, in the order of their lines. -/
def parse (content : String) : Except LineError (List Rule) :=
  parseLines 1 (content.toList.splitOn '\n')

end RuleFile
end EgressPolicy
