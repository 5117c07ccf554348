/-
EgressPolicy/Text/Letter.lean

Letter case, which this library knows for the 26 ASCII letters alone.

Host names, keywords and country codes are compared after folding.  Folding
works character by character and leaves every character outside `A`-`Z` and
`a`-`z` as it is, so `É` and `é` stay different.
-/
namespace EgressPolicy.Text

/-- `s` with its ASCII capitals made small. -/
def lower (s : String) : String := s.map Char.toLower

/-- `s` with its small ASCII letters made capitals. -/
def upper (s : String) : String := s.map Char.toUpper

/-- `s` and `t` differ at most in the case of ASCII letters. -/
def sameLetters (s t : String) : Bool := lower s == lower t

theorem toList_lower (s : String) : (lower s).toList = s.toList.map Char.toLower :=
  String.toList_map

theorem toList_upper (s : String) : (upper s).toList = s.toList.map Char.toUpper :=
  String.toList_map

theorem sameLetters_iff {s t : String} : sameLetters s t = true ↔ lower s = lower t := by
  simp [sameLetters]

@[simp] theorem sameLetters_self (s : String) : sameLetters s s = true := by
  simp [sameLetters]

theorem sameLetters_comm (s t : String) : sameLetters s t = sameLetters t s :=
  BEq.comm

end EgressPolicy.Text
