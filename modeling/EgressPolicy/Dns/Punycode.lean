/-
EgressPolicy/Dns/Punycode.lean

Labels of any characters, written with letters, digits and hyphens.

The ASCII characters of the label come first, and a hyphen after them if there
are any.  Then every other character is inserted, in the order of code points,
and of places where these are equal.  An insertion is a number: how many
insertions were passed over since the last one, if all places are tried for one
code point before the next.  Numbers are written with 36 digits, the least
significant first; a digit below a threshold ends its number.  The thresholds
follow a bias, which is settled anew after every number.
-/
import EgressPolicy.Text.Split

namespace EgressPolicy.Punycode

/-! ### Digits -/

/-- The value of a digit. -/
def digitValue? (c : Char) : Option Nat :=
  if 'a' ≤ c ∧ c ≤ 'z' then some (c.toNat - 'a'.toNat)
  else if '0' ≤ c ∧ c ≤ '9' then some (c.toNat - '0'.toNat + 26)
  else none

/-- The digit of a value below 36. -/
def digitChar (d : Nat) : Char :=
  if d < 26 then Char.ofNat ('a'.toNat + d) else Char.ofNat ('0'.toNat + (d - 26))

/-- What a digit that ends a number is below, when `k` digits stand before it. -/
def threshold (bias k : Nat) : Nat := max 1 (min 26 (36 * (k + 1) - bias))

theorem threshold_pos (bias k : Nat) : 0 < threshold bias k := by
  unfold threshold
  omega

/-- The digits of a number, when `k` of its digits are written. -/
def digitsOf (bias k n : Nat) : List Nat :=
  if n < threshold bias k then [n]
  else
    (threshold bias k + (n - threshold bias k) % (36 - threshold bias k)) ::
      digitsOf bias (k + 1) ((n - threshold bias k) / (36 - threshold bias k))
termination_by n
decreasing_by
  have := threshold_pos bias k
  have := Nat.div_le_self (n - threshold bias k) (36 - threshold bias k)
  omega

/-- The bias that suits numbers of the size of `n`. -/
def biasOf (n : Nat) : Nat :=
  if 455 < n then 36 + biasOf (n / 35) else 36 * n / (n + 38)

/-! ### Insertions -/

/-- A label on its way: what is there, and the last insertion. -/
structure Draft where
  text : List Char
  /-- The code point that was inserted last. -/
  point : Nat
  /-- The place behind it. -/
  place : Nat
  bias : Nat

namespace Draft

/-- The draft before the first insertion. -/
def ofBasic (text : List Char) : Draft := ⟨text, 0x80, 0, 72⟩

/-- The number of the insertion of `point` at `place`. -/
def numberOf (d : Draft) (point place : Nat) : Nat :=
  (point - d.point) * (d.text.length + 1) + place - d.place

/-- The draft after the insertion of number `n`, unless that is no character. -/
def insert? (d : Draft) (n : Nat) : Option Draft :=
  let size := d.text.length + 1
  let point := d.point + (d.place + n) / size
  let place := (d.place + n) % size
  let damped := if d.place = 0 then n / 700 else n / 2
  if point.isValidChar then
    some ⟨d.text.insertIdx place (Char.ofNat point), point, place + 1,
      biasOf (damped + damped / size)⟩
  else none

/-- The draft after the insertions that `digits` write, when `k` digits of the
next number were `sum` and one more counts `weight` times. -/
def read? (d : Draft) (k weight sum : Nat) : List Nat → Option Draft
  | [] => if k = 0 then some d else none
  | digit :: digits =>
    let sum := sum + digit * weight
    if digit < threshold d.bias k then do read? (← d.insert? sum) 0 1 0 digits
    else read? d (k + 1) (weight * (36 - threshold d.bias k)) sum digits

/-- The digits of several insertions, each a code point and a place. -/
def write (d : Draft) : List (Nat × Nat) → List Nat
  | [] => []
  | (point, place) :: insertions =>
    let n := d.numberOf point place
    digitsOf d.bias 0 n ++
      match d.insert? n with
      | some d => write d insertions
      | none => []

end Draft

/-! ### Labels -/

/-- The label that `cs` writes. -/
def decode? (cs : List Char) : Option (List Char) := do
  let (basic, tail) := (Text.cutLast? '-' cs).getD ([], cs)
  let digits ← tail.mapM digitValue?
  let draft ← (Draft.ofBasic basic).read? 0 1 0 digits
  return draft.text

/-- The insertions that complete a label, in their order: at its place, a
character has those before it in the label that are inserted earlier. -/
def insertions (label : List Char) : List (Nat × Nat) :=
  let all := label.zipIdx.filterMap fun (c, i) =>
    if c.toNat < 0x80 then none
    else some (c.toNat, (label.take i).countP (·.toNat ≤ c.toNat))
  all.mergeSort fun a b => a.1 < b.1 || (a.1 == b.1 && a.2 ≤ b.2)

/-- How a label is written. -/
def encode (label : List Char) : List Char :=
  let basic := label.filter (·.toNat < 0x80)
  basic ++ (if basic = [] then [] else ['-']) ++
    ((Draft.ofBasic basic).write (insertions label)).map digitChar

example : decode? "mnchen-3ya".toList = some "münchen".toList := by decide +kernel
example : encode "münchen".toList = "mnchen-3ya".toList := by decide +kernel

end EgressPolicy.Punycode
