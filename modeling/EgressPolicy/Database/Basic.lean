/-
EgressPolicy/Database/Basic.lean

Country databases: a search tree over address bits, and the data behind it.

The file ends with a record about itself, after the last place where the
marker stands.  It starts with the tree.  Each node has two records, for a
bit that is clear and for one that is set, and a record is the number of a
node, or the node count for "nothing known", or something larger, which is a
position in the data that follows the tree and sixteen bytes.

A tree for IPv6 holds the IPv4 addresses below 96 clear bits.  The walk along
these has to succeed for a file to be a database at all.
-/
import EgressPolicy.Database.Shape
import EgressPolicy.Ip.Basic

namespace EgressPolicy

/-- How many bits a record of the search tree has. -/
inductive RecordWidth where
  | bits24
  | bits28
  | bits32
deriving DecidableEq

namespace RecordWidth

/-- The width of a number of bits. -/
def ofBits? : Nat → Option RecordWidth
  | 24 => some bits24
  | 28 => some bits28
  | 32 => some bits32
  | _ => none

/-- How many bytes a node has, which is two records. -/
def nodeSize : RecordWidth → Nat
  | bits24 => 6
  | bits28 => 7
  | bits32 => 8

end RecordWidth

/-- Why a file is no country database. -/
inductive DatabaseFault where
  /-- The marker stands nowhere in the file. -/
  | noMarker
  /-- What follows the marker is no record about a database. -/
  | unsoundRecord
  /-- The walk to the IPv4 addresses leaves the file. -/
  | brokenTree
deriving DecidableEq

/-- The wording of the fault. -/
def DatabaseFault.message : DatabaseFault → String
  | noMarker => "no database metadata in the file"
  | unsoundRecord => "invalid database metadata"
  | brokenTree => "invalid search tree"

/-- An opened country database. -/
structure Database where
  bytes : ByteArray
  /-- What the database calls itself. -/
  title : String
  ipVersion : Nat
  nodeCount : Nat
  width : RecordWidth

namespace Database

/-! ### The tree -/

variable (db : Database)

/-- The record of a node for a bit. -/
def child? (node : Nat) (bit : Bool) : Option Nat :=
  let tree : Section := ⟨db.bytes, 0⟩
  let base := node * db.width.nodeSize
  match db.width, bit with
  | .bits24, false => tree.number? base 3
  | .bits24, true => tree.number? (base + 3) 3
  | .bits28, false => do
    let middle ← tree.byte? (base + 3)
    let low ← tree.number? base 3
    return middle / 16 * 0x1000000 + low
  | .bits28, true => do
    let middle ← tree.byte? (base + 3)
    let low ← tree.number? (base + 4) 3
    return middle % 16 * 0x1000000 + low
  | .bits32, false => tree.number? base 4
  | .bits32, true => tree.number? (base + 4) 4

/-- Where a walk along `bits` ends: at the last bit, or as soon as it leaves
the tree. -/
def walk? (node : Nat) : List Bool → Option Nat
  | [] => some node
  | bit :: bits =>
    if db.nodeCount ≤ node then some node
    else
      match db.child? node bit with
      | some next => walk? next bits
      | none => none

/-- Where walks along IPv4 addresses start. -/
def ipv4Start? : Option Nat :=
  if db.ipVersion = 6 then db.walk? 0 (List.replicate 96 false) else some 0

/-- Where the data starts. -/
def dataStart : Nat := db.nodeCount * db.width.nodeSize + 16

/-- The bits of an address, the most significant first. -/
def bitsOf : Ip → List Bool
  | .v4 bits => (List.range 32).map bits.getMsbD
  | .v6 bits => (List.range 128).map bits.getMsbD

/-- Where the walk along an address ends; the database must know its family. -/
def leaf? : Ip → Option Nat
  | .v4 bits => do db.walk? (← db.ipv4Start?) (bitsOf (.v4 bits))
  | .v6 bits => if db.ipVersion = 4 then none else db.walk? 0 (bitsOf (.v6 bits))

/-- The position in the data of what is known about an address. -/
def position? (ip : Ip) : Option Nat := do
  let leaf ← db.leaf? ip
  if db.nodeCount + 16 ≤ leaf ∧ leaf - (db.nodeCount + 16) + db.dataStart < db.bytes.size then
    return leaf - (db.nodeCount + 16)
  else none

/-- What is known about an address, in a shape. -/
def find? (shape : Shape) (ip : Ip) : Option Datum := do
  let pos ← db.position? ip
  (Section.mk db.bytes db.dataStart).datum? shape pos

/-! ### Opening -/

/-- The bytes in front of a database's record about itself. -/
def marker : ByteArray :=
  ⟨#[0xAB, 0xCD, 0xEF, 0x4D, 0x61, 0x78, 0x4D, 0x69, 0x6E, 0x64, 0x2E, 0x63, 0x6F, 0x6D]⟩

/-- What follows the last marker that starts before position `n`. -/
def afterMarker? (bytes : ByteArray) : Nat → Option Nat
  | 0 => none
  | n + 1 =>
    if bytes.extract n (n + marker.size) = marker then some (n + marker.size)
    else afterMarker? bytes n

/-- The shape of a database's record about itself. -/
def aboutShape : Shape :=
  .record [
    ("binary_format_major_version", .unsigned 0xFFFF),
    ("binary_format_minor_version", .unsigned 0xFFFF),
    ("build_epoch", .unsigned 0xFFFFFFFFFFFFFFFF),
    ("database_type", .text),
    ("description", .table),
    ("ip_version", .unsigned 0xFFFF),
    ("languages", .list .text),
    ("node_count", .unsigned 0xFFFFFFFF),
    ("record_size", .unsigned 0xFFFF)]

/-- The database whose record about itself is `about`. -/
def ofAbout? (bytes : ByteArray) (about : Datum) : Option Database := do
  let _ ← about.field? "binary_format_major_version"
  let _ ← about.field? "binary_format_minor_version"
  let _ ← about.field? "build_epoch"
  let title ← (← about.field? "database_type").text?
  let _ ← about.field? "description"
  let ipVersion ← (← about.field? "ip_version").number?
  let _ ← about.field? "languages"
  let nodeCount ← (← about.field? "node_count").number?
  let width ← RecordWidth.ofBits? (← (← about.field? "record_size").number?)
  return ⟨bytes, title, ipVersion, nodeCount, width⟩

/-- The database in a file, or why the file is none. -/
def ofBytes (bytes : ByteArray) : Except DatabaseFault Database :=
  match afterMarker? bytes bytes.size with
  | none => .error .noMarker
  | some start =>
    match (Section.mk bytes start).datum? aboutShape 0 >>= ofAbout? bytes with
    | none => .error .unsoundRecord
    | some db => if db.ipv4Start?.isSome then .ok db else .error .brokenTree

/-- The database in a file, unless the file is none. -/
def ofBytes? (bytes : ByteArray) : Option Database := (ofBytes bytes).toOption

theorem ofBytes?_eq_some_iff {bytes : ByteArray} {db : Database} :
    ofBytes? bytes = some db ↔ ofBytes bytes = .ok db := by
  rw [ofBytes?]
  rcases ofBytes bytes with fault | db' <;> simp [Except.toOption]

end Database
end EgressPolicy
