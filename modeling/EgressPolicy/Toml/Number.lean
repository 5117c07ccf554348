/-
EgressPolicy/Toml/Number.lean

Numbers.

Digits may be grouped by single underscores.  An integer has 64 bits and a
sign; it is decimal, or it has a base and then no sign.  A floating-point
number is a decimal integer with a fraction, or with an exponent, or with
both.  Its value is not kept, but one that is too large to be finite is no
number.  That is decided exactly: a double is infinite from the midpoint
between the largest finite double and the next power of two on, which is
54 bits that are set, followed by 970 that are clear.
-/
import EgressPolicy.Toml.Reader

namespace EgressPolicy.Toml.Reader

/-- Digits of a base, grouped by single underscores. -/
def digits (base : Nat) : Reader (List Char) := do
  let digit := oneOf fun c => (Text.digitIn? base c).isSome
  return (← digit) :: (← many (digit <|> (char '_' *> digit)))

/-- A sign: whether it is a minus, if there is one. -/
def sign : Reader (Option Bool) :=
  maybe ((do char '-'; return true) <|> (do char '+'; return false))

/-! ### Integers -/

/-- Decimal digits without a zero in front. -/
def properDigits : Reader (List Char) := do
  let ds ← digits 10
  if ds.head? = some '0' ∧ ds ≠ ['0'] then failure else return ds

/-- A decimal integer. -/
def decimal : Reader Int := do
  let negative ← sign
  let n ← (Text.readNat? 10 (← properDigits) : Option Nat)
  return if negative = some true then -(n : Int) else n

/-- An integer with a base. -/
def based : Reader Int := do
  let base ← (do word "0x"; return 16) <|> (do word "0o"; return 8) <|> (do word "0b"; return 2)
  let n ← (Text.readNat? base (← digits base) : Option Nat)
  return n

/-- An integer of 64 bits. -/
def integer : Reader Int := do
  let n ← based <|> decimal
  if -0x8000000000000000 ≤ n ∧ n < 0x8000000000000000 then return n else failure

/-! ### Floating-point numbers -/

/-- `m * 10 ^ e` is too large for a double.  The first two cases decide by
the number of digits alone, so that no power is ever large. -/
def overflows (m : Nat) (e : Int) : Bool :=
  let magnitude := (Nat.toDigits 10 m).length + e
  if m = 0 ∨ magnitude < 300 then false
  else if 310 < magnitude then true
  else (0x3FFFFFFFFFFFFF <<< 970) * Nat.pow 10 (-e).toNat ≤ m * Nat.pow 10 e.toNat

/-- The digits of a fraction. -/
def fraction : Reader (List Char) := do
  char '.'
  digits 10

/-- An exponent. -/
def exponent : Reader Int := do
  let _ ← oneOf fun c => c = 'e' || c = 'E'
  let negative ← sign
  let n ← (Text.readNat? 10 (← digits 10) : Option Nat)
  return if negative = some true then -(n : Int) else n

/-- A number with a fraction or an exponent. -/
def finiteFloating : Reader Unit := do
  let negative ← sign
  let whole ← properDigits
  let (places, e) ← (do return ([], ← exponent)) <|>
    (do return (← fraction, (← maybe exponent).getD 0))
  let m ← (Text.readNat? 10 (whole ++ places) : Option Nat)
  if negative ≠ some true ∧ overflows m (e - places.length) then failure

/-- A floating-point number. -/
def floating : Reader Unit :=
  finiteFloating <|> do
    let _ ← sign
    word "inf" <|> word "nan"

end EgressPolicy.Toml.Reader
