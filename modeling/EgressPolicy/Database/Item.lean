/-
EgressPolicy/Database/Item.lean

The items that a data section of a country database is made of.

An item starts with a head: a control byte with three bits for its kind and
five for its size.  A kind of zero says that the next byte has the kind, less
seven; the sizes 29 to 31 say that one to three more bytes have the size.

An item can be read or skipped.  To read one, its content has to be sound.
Scalars are read whole; of maps and arrays only the number of entries is read
here, and a pointer is given as the position it leads to.  To skip one, only
the heads matter: its content may be anything, even cut off by the end of the
file.
-/
namespace EgressPolicy

/-- A part of a file; positions in it count from `start`. -/
structure Section where
  bytes : ByteArray
  start : Nat

/-- The kinds of item. -/
inductive ItemKind where
  | pointer
  | text
  | double
  | bytes
  | unsigned16
  | unsigned32
  | map
  | signed32
  | unsigned64
  | unsigned128
  | array
  | flag
  | float

namespace ItemKind

/-- The kind of a number in a head. -/
def ofNumber? : Nat → Option ItemKind
  | 1 => some pointer
  | 2 => some text
  | 3 => some double
  | 4 => some bytes
  | 5 => some unsigned16
  | 6 => some unsigned32
  | 7 => some map
  | 8 => some signed32
  | 9 => some unsigned64
  | 10 => some unsigned128
  | 11 => some array
  | 14 => some flag
  | 15 => some float
  | _ => none

end ItemKind

/-- Whether bytes are the same.  It has a name because other libraries have an
instance of their own, on which equality of items is not to depend. -/
@[reducible] def Section.bytesDecidableEq : DecidableEq ByteArray := ByteArray.instDecidableEq

section

attribute [local instance] Section.bytesDecidableEq

/-- What stands at a position. -/
inductive Item where
  | pointer (target : Nat)
  /-- The bytes of a text, or bytes that are none. -/
  | bytes (b : ByteArray)
  /-- A number of at most 64 bits. -/
  | unsigned (n : Nat)
  /-- A number of at most 128 bits. -/
  | wide
  | signed (n : Int)
  | floating
  | flag
  | map (count : Nat)
  | array (count : Nat)
deriving DecidableEq

end

namespace Section

variable (s : Section)

/-- The byte at a position. -/
def byte? (pos : Nat) : Option Nat := s.bytes[s.start + pos]?.map UInt8.toNat

/-- The number that `n` bytes write, the most significant first. -/
def number? (pos : Nat) : Nat → Option Nat
  | 0 => some 0
  | n + 1 => do
    let high ← number? pos n
    let low ← s.byte? (pos + n)
    return 256 * high + low

/-- `n` bytes at a position. -/
def slice? (pos n : Nat) : Option ByteArray :=
  if s.start + pos + n ≤ s.bytes.size then
    some (s.bytes.extract (s.start + pos) (s.start + pos + n))
  else none

/-- The size of an item and where its content starts, when its control byte
has the size bits `bits` and `pos` is what follows. -/
def size? (bits pos : Nat) : Option (Nat × Nat) :=
  match bits with
  | 29 => (s.number? pos 1).map fun n => (29 + n, pos + 1)
  | 30 => (s.number? pos 2).map fun n => (285 + n, pos + 2)
  | 31 => (s.number? pos 3).map fun n => (65821 + n, pos + 3)
  | n => some (n, pos)

/-- The position that a pointer leads to, and what follows the pointer.  The
longer a pointer is, the further is the first position that it can name. -/
def pointer? (size pos : Nat) : Option (Nat × Nat) :=
  let length := size / 8 % 4 + 1
  (s.number? pos length).map fun n =>
    match length with
    | 1 => (size % 8 * 256 + n, pos + 1)
    | 2 => (size % 8 * 0x10000 + n + 2048, pos + 2)
    | 3 => (size % 8 * 0x1000000 + n + 526336, pos + 3)
    | _ => (n, pos + length)

/-- A number of `size` bytes, at most `limit` of them. -/
def bounded? (limit size pos : Nat) : Option (Nat × Nat) :=
  if size ≤ limit then (s.number? pos size).map (·, pos + size) else none

/-- An item with `size` bytes of content that has to have exactly `wanted`. -/
def fixed? (item : Item) (wanted size pos : Nat) : Option (Item × Nat) :=
  if size = wanted then (s.slice? pos size).map fun _ => (item, pos + size) else none

/-- A number of 32 bits with its sign. -/
def signed32 (size n : Nat) : Int :=
  if size = 4 ∧ 0x80000000 ≤ n then (n : Int) - 0x100000000 else n

/-- The item of a kind and a size whose content is at `pos`, and what follows
it; for maps and arrays what follows is their first entry. -/
def content? (kind : ItemKind) (size pos : Nat) : Option (Item × Nat) :=
  match kind with
  | .pointer => (s.pointer? size pos).map fun (target, next) => (.pointer target, next)
  | .text | .bytes => (s.slice? pos size).map fun b => (.bytes b, pos + size)
  | .double => s.fixed? .floating 8 size pos
  | .unsigned16 => (s.bounded? 2 size pos).map fun (n, next) => (.unsigned n, next)
  | .unsigned32 => (s.bounded? 4 size pos).map fun (n, next) => (.unsigned n, next)
  | .map => some (.map size, pos)
  | .signed32 => (s.bounded? 4 size pos).map fun (n, next) => (.signed (signed32 size n), next)
  | .unsigned64 => (s.bounded? 8 size pos).map fun (n, next) => (.unsigned n, next)
  | .unsigned128 => (s.bounded? 16 size pos).map fun (_, next) => (.wide, next)
  | .array => some (.array size, pos)
  | .flag => if size ≤ 1 then some (.flag, pos) else none
  | .float => s.fixed? .floating 4 size pos

/-- The kind and the size of the item at a position, and where its content is. -/
def head? (pos : Nat) : Option (ItemKind × Nat × Nat) := do
  let control ← s.byte? pos
  let (number, pos) ←
    if control / 32 = 0 then
      (s.byte? (pos + 1)).map fun more => ((more + 7) % 256, pos + 2)
    else some (control / 32, pos + 1)
  let (size, pos) ← s.size? (control % 32) pos
  let kind ← ItemKind.ofNumber? number
  return (kind, size, pos)

/-- The item at a position, and what follows it. -/
def item? (pos : Nat) : Option (Item × Nat) := do
  let (kind, size, pos) ← s.head? pos
  s.content? kind size pos

/-! ### Skipping -/

/-- What follows `count` items, when `skip` says what follows one. -/
def skipMany (skip : Nat → Option Nat) : Nat → Nat → Option Nat
  | 0, pos => some pos
  | count + 1, pos => do skipMany skip count (← skip pos)

/-- What follows the item at a position and all that belongs to it, which is at
most `depth` levels deep.  What a pointer leads to is skipped too, and then
what follows the pointer is meant. -/
def skipWithin? : Nat → Nat → Option Nat
  | 0, _ => none
  | depth + 1, pos => do
    let (kind, size, pos) ← s.head? pos
    match kind with
    | .pointer => do
      let (target, next) ← s.pointer? size pos
      let _ ← skipWithin? depth target
      return next
    | .map => skipMany (skipWithin? depth) (2 * size) pos
    | .array => skipMany (skipWithin? depth) size pos
    | .flag => some pos
    | _ => some (pos + size)

/-- What follows the item at a position and all that belongs to it.  Pointers
can lead in circles; without one, a level below another starts at another
position, so that there are no more levels than bytes. -/
def skip? (pos : Nat) : Option Nat := s.skipWithin? (s.bytes.size + 1) pos

end Section
end EgressPolicy
