/-
EgressPolicy/Text/Blank.lean

Blank characters, and texts cut at them.

A rule line is read as its *fields*: the stretches between blanks, where a
blank is any character with the Unicode property `White_Space`.  Cutting is
done once, by `List.splitOnP`, and the empty stretches are dropped; so
leading, trailing and repeated blanks never matter, which is what
`fields_blank_cons` and `fields_append_blank` say.
-/
namespace EgressPolicy.Text

/-! ### The blank characters -/

/-- The ranges of the Unicode property `White_Space`: 25 code points. -/
def blankRanges : List (Nat × Nat) :=
  [(0x09, 0x0D), (0x20, 0x20), (0x85, 0x85), (0xA0, 0xA0), (0x1680, 0x1680),
   (0x2000, 0x200A), (0x2028, 0x2029), (0x202F, 0x202F), (0x205F, 0x205F),
   (0x3000, 0x3000)]

/-- `c` has the property `White_Space`. -/
def isBlank (c : Char) : Bool :=
  blankRanges.any fun r => r.1 ≤ c.toNat && c.toNat ≤ r.2

example : (blankRanges.map fun r => r.2 - r.1 + 1).sum = 25 := by decide

/-! ### Fields -/

/-- The stretches of `cs` without a blank, in order. -/
def fields (cs : List Char) : List (List Char) :=
  (cs.splitOnP isBlank).filter (· ≠ [])

@[simp] theorem fields_nil : fields [] = [] := by simp [fields]

/-- A blank in front changes no field. -/
theorem fields_blank_cons {c : Char} (h : isBlank c = true) (cs : List Char) :
    fields (c :: cs) = fields cs := by
  simp [fields, List.splitOnP_cons_eq_if_modifyHead, h]

/-- A blank separates the fields on its two sides. -/
theorem fields_append_blank (xs ys : List Char) {c : Char} (h : isBlank c = true) :
    fields (xs ++ c :: ys) = fields xs ++ fields ys := by
  simp [fields, List.splitOnP_append_cons xs ys h]

/-- A text without blanks is one field, unless it is empty. -/
theorem fields_of_no_blank {cs : List Char} (hne : cs ≠ [])
    (h : ∀ c ∈ cs, isBlank c = false) : fields cs = [cs] := by
  simp [fields, List.splitOnP_eq_singleton h, hne]

end EgressPolicy.Text
