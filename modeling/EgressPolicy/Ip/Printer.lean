/-
EgressPolicy/Ip/Printer.lean

The text of an address and of a network.

IPv4 addresses are four decimal octets.  IPv6 addresses follow RFC 5952:
eight groups in small hexadecimal digits, where the longest run of two or
more zero groups is written `::`, the first of several longest ones.  An
address in `::ffff:0:0/96` ends in its IPv4 address, and no other address is
written with dots.
-/
import EgressPolicy.Ip.Basic
import EgressPolicy.Text.Numeral

namespace EgressPolicy

/-! ### Octets and groups -/

/-- The four octets of an IPv4 address. -/
def Ip.octets (bits : BitVec 32) : List Nat := Text.digitList 256 4 bits.toNat

/-- The eight groups of an IPv6 address. -/
def Ip.groups (bits : BitVec 128) : List Nat := Text.digitList 65536 8 bits.toNat

/-- How many zeros `gs` starts with. -/
def Ip.zerosAhead (gs : List Nat) : Nat := (gs.takeWhile (· == 0)).length

/-- Where the longest run of zeros in `gs` starts and how long it is; of
equally long ones the first. -/
def Ip.longestZeros : List Nat → Nat × Nat
  | [] => (0, 0)
  | g :: gs =>
    let here := zerosAhead (g :: gs)
    let later := longestZeros gs
    if later.2 ≤ here then (0, here) else (later.1 + 1, later.2)

/-! ### Texts -/

/-- Numbers in `base` with `sep` between them. -/
def Ip.joined (base : Nat) (sep : Char) (ns : List Nat) : List Char :=
  [sep].intercalate (ns.map (Nat.toDigits base))

/-- The text of an IPv4 address. -/
def Ip.dotted (bits : BitVec 32) : List Char := joined 10 '.' (octets bits)

/-- Groups with their longest run of two or more zeros written `::`. -/
def Ip.compressed (gs : List Nat) : List Char :=
  let run := longestZeros gs
  if 2 ≤ run.2 then
    joined 16 ':' (gs.take run.1) ++ [':', ':'] ++ joined 16 ':' (gs.drop (run.1 + run.2))
  else joined 16 ':' gs

/-- The text of an address, as characters. -/
def Ip.chars : Ip → List Char
  | .v4 bits => dotted bits
  | .v6 bits =>
    match mapped? bits with
    | some low => "::ffff:".toList ++ dotted low
    | none => compressed (groups bits)

/-- The text of an address. -/
def Ip.render (ip : Ip) : String := String.ofList ip.chars

/-- The text of a network: its address, a slash and its length. -/
def Network.render (n : Network) : String := s!"{n.ip.render}/{n.len}"

example : Ip.render (.v4 0x7F000001#32) = "127.0.0.1" := by decide
example : Ip.render (.v6 1#128) = "::1" := by decide
example : Ip.render (.v6 0#128) = "::" := by decide
example : Ip.render (.v6 0xFFFF01020304#128) = "::ffff:1.2.3.4" := by decide
example : Ip.render (.v6 0x20010db8000000010000000000000001#128) = "2001:db8:0:1::1" := by decide
example : Ip.render (.v6 0x00010000000000020003000000000004#128) = "1::2:3:0:0:4" := by decide

end EgressPolicy
