/-
EgressPolicy/Dns/HostName.lean

Host names, which are asked for label by label.

Dots end labels, and a dot at the end of a name means nothing.  A backslash
takes the meaning from the character after it; with three octal digits after
it, it stands for the character of that number.  A backslash that the end of
the name cuts off counts for nothing, like the digits after it.

A label is folded, and has letters, digits and hyphens then, not a hyphen in
front, or characters beyond ASCII.  It is at most 63 bytes long as it is sent,
and the whole name at most 255.  Two kinds of label stand apart: `*` alone, and
service labels, which start with an underscore and are ASCII throughout.
-/
import EgressPolicy.Dns.Folding
import EgressPolicy.Dns.Punycode
import EgressPolicy.Text.Attached
import EgressPolicy.Text.Blank
import EgressPolicy.Text.Numeral

namespace EgressPolicy

/-- A host name: its labels as they are compared, the most special first. -/
structure HostName where
  labels : List String
deriving DecidableEq

namespace HostName

/-! ### Labels as they are written -/

/-- The characters that a name writes, with `none` where a label ends. -/
def marks? : List Char → Option (List (Option Char))
  | [] => some []
  | '.' :: cs => (marks? cs).map (none :: ·)
  | '\\' :: cs =>
    match cs with
    | [] => some []
    | a :: cs =>
      if ¬ a.isDigit then (marks? cs).map (some a :: ·)
      else
        match cs with
        | [] => (Text.readNat? 8 [a]).map fun _ => []
        | b :: cs =>
          match cs with
          | [] => (Text.readNat? 8 [a, b]).map fun _ => []
          | c :: cs => do
            let n ← Text.readNat? 8 [a, b, c]
            return some (Char.ofNat n) :: (← marks? cs)
  | c :: cs =>
    if Text.isBlank c ∨ c < ' ' ∨ ('\x7f' ≤ c ∧ c ≤ '\u009f') then none
    else (marks? cs).map (some c :: ·)

/-- The labels of a name as they are written. -/
def pieces? (cs : List Char) : Option (List (List Char)) := do
  let pieces := ((← marks? cs).splitOn none).map (·.filterMap id)
  return if pieces.getLast? = some [] then pieces.dropLast else pieces

/-! ### Sound labels -/

/-- `c` is an ASCII character. -/
def isAscii (c : Char) : Bool := c.toNat < 0x80

/-- `c` is an ASCII letter or digit, or a hyphen, or beyond ASCII. -/
def isPlain (c : Char) : Bool := c.isAlphanum || c == '-' || !isAscii c

/-- What labels start with whose characters beyond ASCII are encoded. -/
def encodedMark : List Char := "xn--".toList

/-- `c` is as folding leaves characters. -/
def isFolded (c : Char) : Bool := fold? c == some [c]

/-- The text behind the mark of an encoded label stands for a label that
needed it. -/
def soundEncoded (tail : List Char) : Bool :=
  match Punycode.decode? tail with
  | some label =>
    label.any (!isAscii ·) && label.all isFolded && !(label.head?.any Text.isAttached)
  | none => false

/-- The part of a folded label is sound, its length aside. -/
def soundPart (part : List Char) : Bool :=
  part ≠ [] && part.all isPlain &&
    match Text.dropStart? encodedMark part with
    | some tail => part.all isAscii && soundEncoded tail
    | none => !(part.head?.any Text.isAttached)

/-- How many bytes the part of a label has as it is sent. -/
def sentLength (part : List Char) : Nat :=
  if part.all isAscii then part.length else (encodedMark ++ Punycode.encode part).length

/-- How many bytes parts take as they are sent, each with a dot or a length in
front. -/
def sentSize : List (List Char) → Nat
  | [] => 0
  | part :: parts => sentLength part + 1 + sentSize parts

/-- The label that `cs` writes, as it is compared.  Folding can bring dots into
a label; they are none between labels, but each part is judged by itself. -/
def label? (cs : List Char) : Option (List Char) :=
  match cs with
  | ['*'] => some cs
  | '_' :: _ =>
    if cs.all (fun c => isAscii c && (isPlain c || c == '_' || c == '.')) && cs.length ≤ 63 then
      some (cs.map Char.toLower)
    else none
  | _ => do
    let label := (← cs.mapM fold?).flatten
    let parts := label.splitOn '.'
    if label.head? ≠ some '-' ∧ parts.all soundPart ∧ sentSize parts ≤ 64 then some label
    else none

/-! ### Names -/

/-- The name that a text writes. -/
def ofString? (s : String) : Option HostName := do
  if s = "." then return ⟨[]⟩
  let labels ← (← pieces? s.toList).mapM label?
  if sentSize (labels.flatMap (·.splitOn '.')) < 255 then
    return ⟨labels.map String.ofList⟩
  else none

/-- The names that are the machine itself, and all names below them with them:
its own name, and what its addresses are called where addresses are names. -/
def ownNames : List (List String) :=
  [["localhost"],
   ["127", "in-addr", "arpa"],
   "1" :: List.replicate 31 "0" ++ ["ip6", "arpa"]]

/-- The name is the machine itself. -/
def isOwn (name : HostName) : Bool := ownNames.any (·.isSuffixOf name.labels)

end HostName
end EgressPolicy
