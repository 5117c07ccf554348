/-
EgressPolicy/Toml/Quoted.lean

Texts in quotes.

There are four forms.  Double quotes know escapes, single quotes do not; and
three quotes of either kind hold a text of several lines.  In those, an end
of line right after the opening quotes does not count, every other one is a
line feed, and up to two quotes may stand anywhere, even in front of the
closing three.
-/
import EgressPolicy.Toml.Reader

namespace EgressPolicy.Toml.Reader

/-! ### Escapes -/

/-- What a letter after a backslash stands for. -/
def escapeLetter? : Char → Option Char
  | 'b' => some '\x08'
  | 't' => some '\t'
  | 'n' => some '\n'
  | 'f' => some '\x0c'
  | 'r' => some '\r'
  | '"' => some '"'
  | '\\' => some '\\'
  | _ => none

/-- The character with a number; surrogates are none. -/
def charOfCode? (n : Nat) : Option Char :=
  if n.isValidChar then some (Char.ofNat n) else none

/-- A backslash, and a letter or the number of a character. -/
def escape : Reader Char := do
  char '\\'
  match ← oneOf fun _ => true with
  | 'u' => charOfCode? (← number 16 4)
  | 'U' => charOfCode? (← number 16 8)
  | c => escapeLetter? c

/-! ### One line -/

/-- A text in double quotes. -/
def doubleQuoted : Reader String := do
  char '"'
  let cs ← many (oneOf (fun c => isPlain c && c != '"' && c != '\\') <|> escape)
  char '"'
  return String.ofList cs

/-- A text in single quotes. -/
def singleQuoted : Reader String := do
  char '\''
  let cs ← stretch fun c => isPlain c && c != '\''
  char '\''
  return String.ofList cs

/-! ### Several lines -/

/-- One or two quotes that belong to the text, because no third follows. -/
def innerQuotes (quote : Char) : Reader (List Char) := do
  let run ← stretch (· == quote)
  if run.length = 1 ∨ run.length = 2 then return run else failure

/-- The three quotes at the end; two more in front of them belong to the text. -/
def closingQuotes (quote : Char) : Reader (List Char) := fun cs =>
  let n := min (cs.takeWhile (· == quote)).length 5
  if 3 ≤ n then some (List.replicate (n - 3) quote, cs.drop n) else none

/-- A backslash at the end of a line, with all blanks and ends of lines that
follow; it stands for nothing. -/
def continuation : Reader Unit := do
  char '\\'
  spaces
  newline
  let _ ← many ((do let _ ← oneOf isSpace) <|> newline)

/-- A text between three quotes, whose other parts `part` reads. -/
def multiLine (quote : Char) (part : Reader (List Char)) : Reader String := do
  word (String.ofList [quote, quote, quote])
  let _ ← maybe newline
  let parts ← many (part <|> (do newline; return ['\n']) <|> innerQuotes quote)
  return String.ofList (parts.flatten ++ (← closingQuotes quote))

/-- A text in three double quotes. -/
def doubleQuotedLines : Reader String :=
  multiLine '"' <|
    (do return [← oneOf fun c => isPlain c && c != '"' && c != '\\']) <|>
    (do continuation; return []) <|>
    (do return [← escape])

/-- A text in three single quotes. -/
def singleQuotedLines : Reader String :=
  multiLine '\'' <| do return [← oneOf fun c => isPlain c && c != '\'']

/-! ### All forms -/

/-- A text in quotes, on one line. -/
def quotedWord : Reader String := doubleQuoted <|> singleQuoted

/-- A text in quotes. -/
def quoted : Reader String :=
  doubleQuotedLines <|> doubleQuoted <|> singleQuotedLines <|> singleQuoted

end EgressPolicy.Toml.Reader
