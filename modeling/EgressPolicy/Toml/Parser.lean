/-
EgressPolicy/Toml/Parser.lean

From a text to the root table of the document that it is.

Values nest through arrays and braces, less than eighty deep; the depth that
is left is what the recursion goes down on.  A document is read line by line,
where a line is as long as the value on it, and then its statements take
effect in order.
-/
import EgressPolicy.Toml.Date
import EgressPolicy.Toml.Document
import EgressPolicy.Toml.Number
import EgressPolicy.Toml.Quoted

namespace EgressPolicy.Toml

/-- How deep values and keys may go is less than this. -/
def depthLimit : Nat := 80

namespace Reader

/-! ### Keys -/

/-- A name without quotes. -/
def bareWord : Reader String := do
  let isBare (c : Char) : Bool := c.isAlphanum || c = '_' || c = '-'
  return String.ofList ((← oneOf isBare) :: (← stretch isBare))

/-- A key, with the blanks around it. -/
def key : Reader Key := do
  let names ← separated (char '.') (spaces *> (quotedWord <|> bareWord) <* spaces)
  match names.getLast? with
  | some name =>
    if names.length < depthLimit then return ⟨names.dropLast, name⟩ else failure
  | none => failure

/-! ### Values -/

/-- A value that holds no others. -/
def scalar : Reader Value :=
  (do return .string (← quoted)) <|>
  (do date; return .date) <|>
  (do floating; return .floating) <|>
  (do return .integer (← integer)) <|>
  (do word "true"; return .boolean true) <|>
  (do word "false"; return .boolean false)

/-- A key and its value. -/
def assignment (value : Reader Value) : Reader (Key × Value) := do
  let k ← key
  char '='
  spaces
  return (k, ← value)

/-- An array; a comma may follow its last item. -/
def array (value : Reader Value) : Reader Value := do
  char '['
  let items ← maybe do
    let items ← separated (char ',') (gap *> value <* gap)
    let _ ← maybe (char ',')
    return items
  gap
  char ']'
  return .array (items.getD [])

/-- A table in braces, on one line. -/
def braces (value : Reader Value) : Reader Value := do
  char '\x7b'
  let assignments ← maybe (separated (char ',') (assignment value <* spaces))
  spaces
  char '\x7d'
  let entries ← (Entries.ofAssignments? (assignments.getD []) : Option Entries)
  return .table .braces entries

/-- A value with less than `depth` levels of arrays and braces. -/
def value : Nat → Reader Value
  | 0 => scalar
  | depth + 1 => scalar <|> array (value depth) <|> braces (value depth)

/-! ### Documents -/

/-- A statement. -/
def statement : Reader Statement :=
  (do word "[["; let k ← key; word "]]"; return .appendTable k) <|>
  (do char '['; let k ← key; char ']'; return .openTable k) <|>
  (do let (k, v) ← assignment (value (depthLimit - 1)); return .assign k v)

/-- A line, which may hold a statement. -/
def line : Reader (Option Statement) := do
  spaces
  let s ← maybe statement
  spaces
  let _ ← maybe comment
  return s

/-- A document: lines, and a byte order mark in front that does not count. -/
def document : Reader (List Statement) := do
  let _ ← maybe (char '\ufeff')
  let lines ← many (line <* newline)
  let last ← line
  finish
  return (lines ++ [last]).filterMap id

end Reader

/-- The root table of a document, or why the text is none. -/
def parse (content : String) : Except Fault Entries :=
  match Reader.document content.toList with
  | some (statements, _) => Document.ofStatements statements
  | none => .error .grammar

end EgressPolicy.Toml
