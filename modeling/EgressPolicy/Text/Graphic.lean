/-
EgressPolicy/Text/Graphic.lean

The characters that a quoted text shows as themselves.

A character is shown unless it is nothing to print, or is written onto the
character before it, or is a filler, which is a letter that nobody sees.
-/
import EgressPolicy.Text.Attached
import EgressPolicy.Text.Unprintable

namespace EgressPolicy.Text

/-- The letters that take a place and show nothing in it. -/
def fillers : List Char := ['\u115f', '\u1160', '\u3164', '\uffa0']

/-- `c` is shown as itself. -/
def isGraphic (c : Char) : Bool :=
  !isUnprintable c && !isAttached c && !fillers.contains c

example : isGraphic 'Ü' = true := by decide +kernel
example : isGraphic '\u0301' = false := by decide +kernel
example : isGraphic '\u3164' = false := by decide +kernel

end EgressPolicy.Text
