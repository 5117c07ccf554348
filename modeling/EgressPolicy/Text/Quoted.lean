/-
EgressPolicy/Text/Quoted.lean

Texts in double quotes, as summaries show them.

Quotes and backslashes get a backslash, four control characters a letter or
digit of their own, and every other character that is not graphic its code
point in hexadecimal digits.
-/
import EgressPolicy.Text.Graphic

namespace EgressPolicy.Text

/-- A character as it stands between quotes. -/
def quotedChar : Char → List Char
  | '\x00' => ['\\', '0']
  | '\t' => ['\\', 't']
  | '\r' => ['\\', 'r']
  | '\n' => ['\\', 'n']
  | '"' => ['\\', '"']
  | '\\' => ['\\', '\\']
  | c =>
    if isGraphic c then [c]
    else ['\\', 'u', '\x7b'] ++ Nat.toDigits 16 c.toNat ++ ['\x7d']

/-- A text in double quotes. -/
def quoted (s : String) : String :=
  String.ofList ('"' :: s.toList.flatMap quotedChar ++ ['"'])

end EgressPolicy.Text
