/-
EgressPolicy/Text/Numeral.lean

Numbers as texts, and numbers as digit lists of a fixed length.

Writing is `Nat.toDigits`; reading, `readNat?`, takes a nonempty list of
digits of either letter case and gives the value back.  Below them stand the
two maps between a number and its `k` most significant-first digits in a
base, which turn an address into its octets or groups and back.
-/
namespace EgressPolicy.Text

/-! ### Texts -/

/-- The value of a digit, in any base up to sixteen. -/
def digitValue? (c : Char) : Option Nat :=
  if '0' ≤ c ∧ c ≤ '9' then some (c.toNat - '0'.toNat)
  else if 'a' ≤ c ∧ c ≤ 'f' then some (c.toNat - 'a'.toNat + 10)
  else if 'A' ≤ c ∧ c ≤ 'F' then some (c.toNat - 'A'.toNat + 10)
  else none

/-- The value of `c` as a digit of `base`. -/
def digitIn? (base : Nat) (c : Char) : Option Nat :=
  (digitValue? c).filter (· < base)

/-- The number that the digits `cs` write in `base`; there must be one digit. -/
def readNat? (base : Nat) (cs : List Char) : Option Nat :=
  if cs = [] then none
  else cs.foldlM (fun n c => (digitIn? base c).map (base * n + ·)) 0

@[simp] theorem readNat?_nil (base : Nat) : readNat? base [] = none := by
  simp [readNat?]

/-! ### Digit lists of a fixed length -/

/-- The last `k` digits of `n` in `base`, the most significant first. -/
def digitList (base : Nat) : Nat → Nat → List Nat
  | 0, _ => []
  | k + 1, n => digitList base k (n / base) ++ [n % base]

/-- The number whose digits in `base` are `ds`, the most significant first. -/
def ofDigitList (base : Nat) (ds : List Nat) : Nat :=
  ds.foldl (fun n d => base * n + d) 0

@[simp] theorem length_digitList (base k n : Nat) : (digitList base k n).length = k := by
  induction k generalizing n with
  | zero => rfl
  | succ k ih => simp [digitList, ih]

theorem ofDigitList_concat (base : Nat) (ds : List Nat) (d : Nat) :
    ofDigitList base (ds ++ [d]) = base * ofDigitList base ds + d := by
  simp [ofDigitList]

end EgressPolicy.Text
