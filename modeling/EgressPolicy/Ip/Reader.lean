/-
EgressPolicy/Ip/Reader.lean

Addresses and networks read from text.

A rule file and a destination hold two kinds of address text which differ in
two points, collected in `Dialect`: whether an octet may have leading zeros,
and how many groups `::` stands for at least.  A literal is strict in both.
The address of a network, before its slash, may have padded octets and a
`::` between eight groups that are all written out.

Everything else is common.  Four octets make IPv4.  For IPv6 the text is cut
at its first `::`, each part is cut at the colons, and the last piece of the
last part may be an IPv4 address that counts as two groups.
-/
import EgressPolicy.Ip.Basic
import EgressPolicy.Text.Numeral
import EgressPolicy.Text.Split

namespace EgressPolicy

/-- What one kind of address text allows. -/
structure Dialect where
  /-- An octet may have leading zeros. -/
  paddedOctets : Bool
  /-- The least number of groups that `::` stands for. -/
  leastOmitted : Nat

/-- Addresses that stand alone. -/
def Dialect.literal : Dialect := ⟨false, 1⟩

/-- Addresses in front of a network's slash. -/
def Dialect.network : Dialect := ⟨true, 0⟩

namespace Dialect

variable (d : Dialect)

/-! ### IPv4 -/

/-- An octet: one to three decimal digits, at most 255. -/
def octet? (cs : List Char) : Option Nat :=
  if cs.length ≤ 3 ∧ (d.paddedOctets ∨ cs.length ≤ 1 ∨ cs.head? ≠ some '0') then
    (Text.readNat? 10 cs).filter (· < 256)
  else none

/-- Four octets with dots between them. -/
def v4? (cs : List Char) : Option (BitVec 32) :=
  match (cs.splitOn '.').mapM d.octet? with
  | some [a, b, c, e] => some (BitVec.ofNat 32 (Text.ofDigitList 256 [a, b, c, e]))
  | _ => none

/-! ### IPv6 -/

/-- A group: one to four hexadecimal digits. -/
def group? (cs : List Char) : Option Nat :=
  if cs.length ≤ 4 then Text.readNat? 16 cs else none

/-- Groups without an IPv4 address among them. -/
def plainGroups? (pieces : List (List Char)) : Option (List Nat) := pieces.mapM group?

/-- Groups, the last two of which may be written as an IPv4 address. -/
def groups? : List (List Char) → Option (List Nat)
  | [] => some []
  | [p] =>
    match group? p with
    | some g => some [g]
    | none => (d.v4? p).map fun bits => Text.digitList 65536 2 bits.toNat
  | p :: q :: ps => do
    let g ← group? p
    let gs ← groups? (q :: ps)
    return g :: gs

/-- The pieces between colons; an empty text has none. -/
def pieces (cs : List Char) : List (List Char) :=
  if cs = [] then [] else cs.splitOn ':'

/-- The eight groups that a text stands for. -/
def eightGroups? (cs : List Char) : Option (List Nat) :=
  match Text.cutFirst? [':', ':'] cs with
  | none => (d.groups? (cs.splitOn ':')).filter (·.length = 8)
  | some (front, back) => do
    let head ← plainGroups? (pieces front)
    let tail ← d.groups? (pieces back)
    if head.length < 8 ∧ head.length + tail.length + d.leastOmitted ≤ 8 then
      return head ++ List.replicate (8 - (head.length + tail.length)) 0 ++ tail
    else none

/-- Eight groups with colons between them, zeros left out at `::`. -/
def v6? (cs : List Char) : Option (BitVec 128) :=
  (d.eightGroups? cs).map fun gs => BitVec.ofNat 128 (Text.ofDigitList 65536 gs)

/-- An address of either family. -/
def ip? (cs : List Char) : Option Ip :=
  match d.v4? cs with
  | some bits => some (.v4 bits)
  | none => (d.v6? cs).map .v6

end Dialect

/-! ### The two kinds of text -/

/-- The address that a text writes, with nothing around it. -/
def Ip.ofString? (s : String) : Option Ip := Dialect.literal.ip? s.toList

/-- The length after a network's slash: at most `digits` decimal digits and at
most `w`. -/
def Block.len? (w digits : Nat) (cs : List Char) : Option { n : Nat // n ≤ w } := do
  let n ← if cs.length ≤ digits then Text.readNat? 10 cs else none
  if h : n ≤ w then return ⟨n, h⟩ else none

/-- The network that a text writes: an address, a slash and a length.  The bits
that do not count may be anything. -/
def Network.ofString? (s : String) : Option Network :=
  match s.toList.splitOn '/' with
  | [addr, len] =>
    match Dialect.network.ip? addr with
    | some (.v4 bits) => (Block.len? 32 2 len).map fun n => .v4 ⟨bits, n.1, n.2⟩
    | some (.v6 bits) => (Block.len? 128 3 len).map fun n => .v6 ⟨bits, n.1, n.2⟩
    | none => none
  | _ => none

example : Ip.ofString? "127.0.0.1" = some (.v4 0x7F000001#32) := by decide
example : Ip.ofString? "::ffff:1.2.3.4" = some (.v6 0xFFFF01020304#128) := by decide
example : Ip.ofString? "01.2.3.4" = none := by decide
example : Ip.ofString? "1:2:3:4::5:6:7:8" = none := by decide
example : Network.ofString? "10.0.0.010/08" = some (.v4 ⟨0x0A00000A#32, 8, by decide⟩) := by decide

end EgressPolicy
