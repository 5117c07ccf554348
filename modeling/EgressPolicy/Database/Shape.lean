/-
EgressPolicy/Database/Shape.lean

Data of an expected shape, read from a data section.

A shape says which items may stand at a position.  A record is a map from
field names: fields that the shape does not know are skipped, known ones may
not come twice, and any may be absent.  A record may also be an array of its
fields in order, which is then read only as far as there are fields.  In a
map a field may be named by its number instead of its name, and a key of
bytes that are no text names a field that no shape knows.

Pointers are followed wherever they stand, through any number of further
pointers, except that the key of a record is behind at most one.  Pointers,
maps and arrays are levels of the data, and a level too deep is refused;
what is skipped may be of any depth.
-/
import EgressPolicy.Database.Item

namespace EgressPolicy

/-- What is expected at a position. -/
inductive Shape where
  | text
  /-- A number from 0 to `max`. -/
  | unsigned (max : Nat)
  | flag
  /-- A number, with a fraction or without. -/
  | number
  | list (element : Shape)
  /-- A map from texts to texts. -/
  | table
  | record (fields : List (String × Shape))

/-- What is kept of the data read. -/
inductive Datum where
  /-- Data of which only the shape matters. -/
  | blank
  | text (s : String)
  | number (n : Nat)
  /-- The fields of a record that were present. -/
  | record (fields : List (String × Datum))

namespace Datum

/-- A field of a record. -/
def field? (d : Datum) (name : String) : Option Datum :=
  match d with
  | record fields => fields.lookup name
  | _ => none

/-- The text that the datum is. -/
def text? : Datum → Option String
  | text s => some s
  | _ => none

/-- The number that the datum is. -/
def number? : Datum → Option Nat
  | number n => some n
  | _ => none

end Datum

/-! ### Single items -/

/-- The datum of an item that is complete by itself. -/
def Shape.scalar? : Shape → Item → Option Datum
  | text, .bytes b => (String.fromUTF8? b).map .text
  | unsigned max, .unsigned n => if n ≤ max then some (.number n) else none
  | unsigned max, .signed n => if 0 ≤ n ∧ n ≤ max then some (.number n.toNat) else none
  | flag, .flag => some .blank
  | number, .floating | number, .unsigned _ | number, .signed _ => some .blank
  | _, _ => none

/-- The field that a key names; `none` if it names nothing at all, `some none`
if it names no field of these. -/
def fieldNamed? (fields : List (String × Shape)) : Item → Option (Option (String × Shape))
  | .bytes b => some (fields.find? (String.fromUTF8? b = some ·.1))
  | .unsigned n => some fields[n]?
  | _ => none

namespace Section

variable (s : Section)

/-- The key of a record at a position, and what follows it. -/
def key? (pos : Nat) : Option (Item × Nat) := do
  let (item, next) ← s.item? pos
  match item with
  | .pointer target => (s.item? target).map fun (key, _) => (key, next)
  | key => some (key, next)

/-! ### Several items

The functions below take the reader of one value, `value`, which `decode?`
passes to them. -/

/-- `count` values of one shape, one after the other: what follows them. -/
def values? (value : Shape → Nat → Option (Datum × Nat)) (shape : Shape) : Nat → Nat → Option Nat
  | 0, pos => some pos
  | count + 1, pos => do
    let (_, next) ← value shape pos
    values? value shape count next

/-- `count` entries of a map that is a record, when the fields `found` have
been read, and what follows them. -/
def entries? (value : Shape → Nat → Option (Datum × Nat)) (fields : List (String × Shape)) :
    Nat → List (String × Datum) → Nat → Option (List (String × Datum) × Nat)
  | 0, found, pos => some (found, pos)
  | count + 1, found, pos => do
    let (key, next) ← s.key? pos
    match ← fieldNamed? fields key with
    | none => do entries? value fields count found (← s.skip? next)
    | some (name, shape) =>
      if (found.lookup name).isSome then none
      else do
        let (datum, next) ← value shape next
        entries? value fields count (found ++ [(name, datum)]) next

/-- The first fields of a record that is an array of `count` elements, and what
follows the last of them. -/
def elements? (value : Shape → Nat → Option (Datum × Nat)) :
    List (String × Shape) → Nat → Nat → Option (List (String × Datum) × Nat)
  | (name, shape) :: fields, count + 1, pos => do
    let (datum, next) ← value shape pos
    let (found, next) ← elements? value fields count next
    return ((name, datum) :: found, next)
  | _, _, pos => some ([], pos)

/-! ### Data -/

/-- The datum of a shape at a position, which has at most `depth` levels, and
what follows it. -/
def decode? : Nat → Shape → Nat → Option (Datum × Nat)
  | 0, shape, pos => do
    let (item, next) ← s.item? pos
    (shape.scalar? item).map (·, next)
  | depth + 1, shape, pos => do
    let (item, next) ← s.item? pos
    match item, shape with
    | .pointer target, shape => (decode? depth shape target).map fun (datum, _) => (datum, next)
    | .map count, .table => (values? (decode? depth) .text (2 * count) next).map (.blank, ·)
    | .map count, .record fields =>
      (s.entries? (decode? depth) fields count [] next).map fun (found, next) =>
        (.record found, next)
    | .array count, .list element => (values? (decode? depth) element count next).map (.blank, ·)
    | .array count, .record fields =>
      (elements? (decode? depth) fields count next).map fun (found, next) => (.record found, next)
    | item, shape => (shape.scalar? item).map (·, next)

/-- How many levels data may have. -/
def maxDepth : Nat := 512

/-- The datum of a shape at a position. -/
def datum? (shape : Shape) (pos : Nat) : Option Datum :=
  (s.decode? maxDepth shape pos).map Prod.fst

end Section
end EgressPolicy
