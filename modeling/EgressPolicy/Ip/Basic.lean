/-
EgressPolicy/Ip/Basic.lean

Internet addresses and blocks of addresses, as bit vectors.

An address of either family is its bits.  A *block* of a family keeps an
address and how many of its leading bits count; it holds the addresses whose
leading bits agree with it (`Block.contains`).  Blocks of different families
have no address in common.

An IPv6 address in `::ffff:0:0/96` stands for an IPv4 address; `Ip.canonical`
replaces it by that address, and nothing else.  Main statements:
`canonical_canonical`, and `contains_truncate`: clearing the bits that do not
count leaves the block's addresses as they are.
-/
namespace EgressPolicy

/-! ### Addresses -/

/-- An internet address of one of the two families. -/
inductive Ip where
  | v4 (bits : BitVec 32)
  | v6 (bits : BitVec 128)
deriving DecidableEq

namespace Ip

/-- The IPv4 address of an IPv6 address in `::ffff:0:0/96`. -/
def mapped? (bits : BitVec 128) : Option (BitVec 32) :=
  if bits.extractLsb' 32 96 = 0xFFFF#96 then some (bits.extractLsb' 0 32) else none

/-- The address with an IPv4 address in IPv6 clothing undressed. -/
def canonical : Ip → Ip
  | .v4 bits => .v4 bits
  | .v6 bits =>
    match mapped? bits with
    | some low => .v4 low
    | none => .v6 bits

/-- The address belongs to IPv4. -/
def isV4 : Ip → Bool
  | .v4 _ => true
  | .v6 _ => false

@[simp] theorem canonical_v4 (bits : BitVec 32) : (v4 bits).canonical = v4 bits := rfl

/-- Canonical addresses are left alone. -/
@[simp] theorem canonical_canonical (ip : Ip) : ip.canonical.canonical = ip.canonical := by
  rcases ip with bits | bits
  · rfl
  · rcases e : mapped? bits with - | low <;> simp [canonical, e]

end Ip

/-! ### Blocks -/

/-- The addresses of a family of `w` bits whose first `len` bits are those of `addr`. -/
structure Block (w : Nat) where
  addr : BitVec w
  len : Nat
  len_le : len ≤ w
deriving DecidableEq

namespace Block

variable {w : Nat}

/-- The block of one address. -/
def single (addr : BitVec w) : Block w := ⟨addr, w, Nat.le_refl w⟩

/-- `x` agrees with the block's address on the bits that count. -/
def contains (b : Block w) (x : BitVec w) : Bool :=
  b.addr >>> (w - b.len) == x >>> (w - b.len)

/-- The block with the bits that do not count cleared. -/
def truncate (b : Block w) : Block w :=
  { b with addr := b.addr >>> (w - b.len) <<< (w - b.len) }

/-- Clearing and shifting out again is shifting out. -/
theorem shift_clear_shift (a : BitVec w) (n : Nat) : a >>> n <<< n >>> n = a >>> n := by
  apply BitVec.eq_of_getLsbD_eq
  intro i hi
  simp only [BitVec.getLsbD_ushiftRight, BitVec.getLsbD_shiftLeft]
  by_cases h : n + i < w
  · simp [h]
  · simp [BitVec.getLsbD_of_ge a (n + i) (by omega), h]

@[simp] theorem contains_truncate (b : Block w) (x : BitVec w) :
    b.truncate.contains x = b.contains x := by
  simp [contains, truncate, shift_clear_shift]

@[simp] theorem truncate_truncate (b : Block w) : b.truncate.truncate = b.truncate := by
  simp [truncate, shift_clear_shift]

/-- A block holds its own address. -/
@[simp] theorem contains_addr (b : Block w) : b.contains b.addr = true := by
  simp [contains]

/-- The block of one address holds that address alone. -/
@[simp] theorem contains_single (a x : BitVec w) : (single a).contains x = (a == x) := by
  simp [contains, single]

end Block

/-! ### Networks -/

/-- A block of addresses of one of the two families. -/
inductive Network where
  | v4 (block : Block 32)
  | v6 (block : Block 128)
deriving DecidableEq

namespace Network

/-- The network of one address. -/
def single : Ip → Network
  | .v4 bits => .v4 (.single bits)
  | .v6 bits => .v6 (.single bits)

/-- `ip` is of the network's family and in its block. -/
def contains : Network → Ip → Bool
  | .v4 b, .v4 x => b.contains x
  | .v6 b, .v6 x => b.contains x
  | _, _ => false

/-- The network with the bits that do not count cleared. -/
def truncate : Network → Network
  | .v4 b => .v4 b.truncate
  | .v6 b => .v6 b.truncate

/-- The address that the network is written with. -/
def ip : Network → Ip
  | .v4 b => .v4 b.addr
  | .v6 b => .v6 b.addr

/-- How many leading bits count. -/
def len : Network → Nat
  | .v4 b => b.len
  | .v6 b => b.len

@[simp] theorem contains_truncate (n : Network) (ip : Ip) :
    n.truncate.contains ip = n.contains ip := by
  cases n <;> cases ip <;> simp [contains, truncate]

@[simp] theorem truncate_truncate (n : Network) : n.truncate.truncate = n.truncate := by
  cases n <;> simp [truncate]

/-- The network of one address holds that address alone. -/
theorem contains_single_iff {a x : Ip} : (single a).contains x = true ↔ a = x := by
  cases a <;> cases x <;> simp [contains, single]

end Network
end EgressPolicy
