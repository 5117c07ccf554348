/-
EgressPolicy/Toml/Document.lean

TOML documents as sequences of statements.

A document is a list of statements: headers that open a table, headers that
append a table to an array of tables, and assignments.  An assignment goes to
the table that the last header before it named.  The document is the root
table when all statements have had their effect, one after the other.

Two ways lead down to a table.  Headers pass through every table that is not
in braces, and through the last table of an array of tables.  The dots of a
key pass through tables that no header named, and the table that they reach
must be one that dots created.  Either creates what is missing.  A statement
that finds something else on its way is in conflict with an earlier one.
-/
import EgressPolicy.Toml.Value

namespace EgressPolicy.Toml

/-- A dotted key: the tables that lead to a name, and the name. -/
structure Key where
  path : List String
  name : String
deriving DecidableEq

/-- A part of a document that has an effect of its own. -/
inductive Statement where
  /-- A header: the table that it names is now the one that grows. -/
  | openTable (key : Key)
  /-- A header of an array of tables: a new last table is now the one that grows. -/
  | appendTable (key : Key)
  /-- A value for a key. -/
  | assign (key : Key) (value : Value)

/-- What the statement is about. -/
def Statement.key : Statement → Key
  | openTable key => key
  | appendTable key => key
  | assign key _ => key

/-! ### Faults -/

/-- Why a text is no document. -/
inductive Fault where
  /-- The text does not follow the grammar, nor does a table in braces that gives
  a key twice. -/
  | grammar
  /-- What stands about the key is in conflict with what stands before. -/
  | conflict (key : Key)
deriving DecidableEq

/-- The wording of the fault. -/
def Fault.message : Fault → String
  | grammar => "not a TOML document"
  | conflict key => "duplicate key: " ++ ".".intercalate (key.path ++ [key.name])

/-! ### Changes of tables -/

namespace Entries

/-- Change the table that a header names. -/
def under? (change : Entries → Option Entries) : List String → Entries → Option Entries
  | [], es => change es
  | k :: path, es => es.alter? k fun
    | none => (under? change path []).map (.table .implied)
    | some (.table .braces _) => none
    | some (.table origin inner) => (under? change path inner).map (.table origin)
    | some (.tables earlier last) => (under? change path last).map (.tables earlier)
    | some _ => none

/-- Give a value to a key of dots. -/
def assign? (name : String) (v : Value) : List String → Entries → Option Entries
  | [], es => es.add? name v
  | k :: path, es => es.alter? k fun
    | none => (assign? name v path []).map (.table .dotted)
    | some (.table .dotted inner) => (assign? name v path inner).map (.table .dotted)
    | some (.table .implied inner) =>
      if path = [] then none else (assign? name v path inner).map (.table .implied)
    | some (.tables earlier last) =>
      if path = [] then none else (assign? name v path last).map (.tables earlier)
    | some _ => none

/-- Open the table of a header; a table has one header at most. -/
def openTable? (name : String) : Entries → Option Entries :=
  alter? name fun
    | none => some (.table .header [])
    | some (.table .implied inner) => some (.table .header inner)
    | some _ => none

/-- Append a table to an array of tables, or start one. -/
def appendTable? (name : String) : Entries → Option Entries :=
  alter? name fun
    | none => some (.tables [] [])
    | some (.tables earlier last) => some (.tables (earlier ++ [last]) [])
    | some _ => none

/-- The entries of a table in braces, from its assignments. -/
def ofAssignments? (assignments : List (Key × Value)) : Option Entries :=
  assignments.foldlM (fun es a => es.assign? a.1.name a.2 a.1.path) []

end Entries

/-! ### Documents -/

/-- A document that is being put together: its root table, and the way to the
table that grows. -/
structure Document where
  root : Entries := []
  current : List String := []

namespace Document

/-- The effect of one statement, if it can have one. -/
def step? (d : Document) : Statement → Option Document
  | .openTable key =>
    (d.root.under? (Entries.openTable? key.name) key.path).map (⟨·, key.path ++ [key.name]⟩)
  | .appendTable key =>
    (d.root.under? (Entries.appendTable? key.name) key.path).map (⟨·, key.path ++ [key.name]⟩)
  | .assign key v =>
    (d.root.under? (Entries.assign? key.name v key.path) d.current).map (⟨·, d.current⟩)

/-- The document with one more statement, or the conflict that it is in. -/
def step (d : Document) (s : Statement) : Except Fault Document :=
  match d.step? s with
  | some d' => .ok d'
  | none => .error (.conflict s.key)

/-- The root table that the statements make, or the first conflict. -/
def ofStatements (statements : List Statement) : Except Fault Entries :=
  (statements.foldlM step {}).map root

end Document
end EgressPolicy.Toml
