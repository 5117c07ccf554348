/-
EgressPolicy/Toml/Reader.lean

Readers: functions that take something off the front of a text.

A reader refuses, or gives what it read and the rest of the text.  `r <|> s`
is `s` on the whole text where `r` refuses.  Repetition, `many`, needs no
measure of its own: a reader that takes something each time is done after as
many steps as the text has characters.

The second half of the file is the silent part of a TOML document: blanks,
ends of lines, and comments.
-/
import EgressPolicy.Text.Numeral
import EgressPolicy.Text.Split

namespace EgressPolicy.Toml

/-- A function that takes something off the front of a text, or refuses. -/
abbrev Reader := StateT (List Char) Option

namespace Reader

variable {α β : Type}

/-! ### Characters -/

/-- One character of a class. -/
def oneOf (p : Char → Bool) : Reader Char := fun
  | [] => none
  | c :: cs => if p c then some (c, cs) else none

/-- One given character. -/
def char (c : Char) : Reader Unit := do let _ ← oneOf (· == c)

/-- A given text. -/
def word (s : String) : Reader Unit := fun cs =>
  (Text.dropStart? s.toList cs).map fun rest => ((), rest)

/-- The longest stretch of characters of a class. -/
def stretch (p : Char → Bool) : Reader (List Char) := fun cs =>
  some (cs.takeWhile p, cs.dropWhile p)

/-- The end of the text. -/
def finish : Reader Unit := fun
  | [] => some ((), [])
  | _ :: _ => none

/-! ### Combinations -/

/-- What `r` reads, or nothing where it refuses. -/
def maybe (r : Reader α) : Reader (Option α) := (some <$> r) <|> pure none

/-- What `r` reads, time after time, at most `n` times. -/
def atMost (r : Reader α) : Nat → Reader (List α)
  | 0 => pure []
  | n + 1 => (do return (← r) :: (← atMost r n)) <|> pure []

/-- What `r` reads, time after time, until it refuses. -/
def many (r : Reader α) : Reader (List α) := fun cs => atMost r cs.length cs

/-- What `r` reads `n` times. -/
def exactly (r : Reader α) : Nat → Reader (List α)
  | 0 => pure []
  | n + 1 => do return (← r) :: (← exactly r n)

/-- What `r` reads, at least once, with `separator` in between. -/
def separated (separator : Reader β) (r : Reader α) : Reader (List α) := do
  return (← r) :: (← many (separator *> r))

/-- A number of `n` digits. -/
def number (base n : Nat) : Reader Nat := do
  let digits ← exactly (oneOf fun c => (Text.digitIn? base c).isSome) n
  (Text.readNat? base digits : Option Nat)

/-! ### Blanks, lines and comments -/

/-- The character may stand for itself in texts and comments: a tab, or no
control character of the ASCII range. -/
def isPlain (c : Char) : Bool :=
  c = '\t' || (0x20 ≤ c.toNat && c.toNat ≤ 0x7E) || 0x80 ≤ c.toNat

/-- A blank within a line. -/
def isSpace (c : Char) : Bool := c = ' ' || c = '\t'

/-- Any number of blanks within a line. -/
def spaces : Reader Unit := do let _ ← stretch isSpace

/-- The end of a line. -/
def newline : Reader Unit := word "\n" <|> word "\r\n"

/-- A comment, without the end of its line. -/
def comment : Reader Unit := do
  char '#'
  let _ ← stretch isPlain

/-- Blanks, ends of lines and comments, any number of each. -/
def gap : Reader Unit := do
  let _ ← many ((do let _ ← oneOf isSpace) <|> newline <|> (comment *> newline))

end Reader
end EgressPolicy.Toml
