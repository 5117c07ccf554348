/-
EgressPolicy/Dns/Folding.lean

What the characters of a host name count as.

ASCII capitals count as small letters.  A character that is a variant of plain
letters or digits, such as a wide, raised or circled one, counts as those; an
invisible one may not count at all.  A character that is nothing to print, or
is a variant of something that no host name holds, such as a bracket, makes the
name unsound.  All others count as themselves.
-/
import EgressPolicy.Text.Unprintable

namespace EgressPolicy.HostName

/-! ### Variants of letters and digits -/

/-- The letters in their order. -/
def letters : List Char := "abcdefghijklmnopqrstuvwxyz".toList

/-- The digits in their order. -/
def digits : List Char := "0123456789".toList

/-- Ranges of variants that run through the letters or the digits, over and
over. -/
def variantAlphabets : List (Nat × Nat × List Char) :=
  [(0x24B6, 0x24E9, letters), (0xFF10, 0xFF19, digits), (0xFF21, 0xFF3A, letters),
   (0xFF41, 0xFF5A, letters), (0x1CCD6, 0x1CCEF, letters), (0x1CCF0, 0x1CCF9, digits),
   (0x1D400, 0x1D6A3, letters), (0x1D7CE, 0x1D7FF, digits), (0x1F130, 0x1F149, letters),
   (0x1FBF0, 0x1FBF9, digits)]

/-- Stretches of variants of one letter, digit or sign each: where a stretch
starts and what it counts as. -/
def variantStretches : List (Nat × String) :=
  [(0xAA, "a"), (0xB2, "23"), (0xB9, "1o"), (0x17F, "s"), (0x2B0, "h"), (0x2B2, "jr"),
   (0x2B7, "wy"), (0x2E1, "lsx"), (0x1D2C, "a"), (0x1D2E, "b"), (0x1D30, "de"),
   (0x1D33, "ghijklmn"), (0x1D3C, "o"), (0x1D3E, "prtuwa"), (0x1D47, "bde"), (0x1D4D, "g"),
   (0x1D4F, "km"), (0x1D52, "o"), (0x1D56, "ptu"), (0x1D5B, "v"), (0x1D62, "iruv"), (0x1D9C, "c"),
   (0x1DA0, "f"), (0x1DBB, "z"), (0x2070, "0i"), (0x2074, "456789"), (0x207F, "n0123456789"),
   (0x2090, "aeox"), (0x2095, "hklmnpst"), (0x2102, "c"), (0x210A, "ghhhh"), (0x2110, "iill"),
   (0x2115, "n"), (0x2119, "pqrrr"), (0x2124, "z"), (0x2128, "z"), (0x212A, "k"), (0x212C, "bc"),
   (0x212F, "eef"), (0x2133, "mo"), (0x2139, "i"), (0x2145, "ddeij"), (0x2160, "i"), (0x2164, "v"),
   (0x2169, "x"), (0x216C, "lcdmi"), (0x2174, "v"), (0x2179, "x"), (0x217C, "lcdm"),
   (0x2460, "123456789"), (0x24EA, "0"), (0x2C7C, "jv"), (0x3002, "."), (0xA7F1, "scfq"),
   (0xFE63, "-"), (0xFF0D, "-."), (0xFF61, "."), (0x107A5, "q"), (0x1F12B, "cr")]

/-- Stretches of variants of several letters and digits each. -/
def variantWords : List (Nat × List String) :=
  [(0x132, ["ij", "ij"]), (0x1C7, ["lj", "lj", "lj", "nj", "nj", "nj"]),
   (0x1F1, ["dz", "dz", "dz"]), (0x20A8, ["rs"]), (0x2116, ["no"]), (0x2120, ["sm", "tel", "tm"]),
   (0x213B, ["fax"]), (0x2161, ["ii", "iii", "iv"]), (0x2165, ["vi", "vii", "viii", "ix"]),
   (0x216A, ["xi", "xii"]), (0x2171, ["ii", "iii", "iv"]), (0x2175, ["vi", "vii", "viii", "ix"]),
   (0x217A, ["xi", "xii"]), (0x2469, ["10", "11", "12", "13", "14", "15", "16", "17", "18"]),
   (0x2472, ["19", "20"]), (0x3250, ["pte", "21", "22", "23", "24", "25", "26", "27", "28"]),
   (0x3259, ["29", "30", "31", "32", "33", "34", "35"]),
   (0x32B1, ["36", "37", "38", "39", "40", "41", "42", "43", "44"]),
   (0x32BA, ["45", "46", "47", "48", "49", "50"]), (0x32CC, ["hg", "erg", "ev", "ltd"]),
   (0x3371, ["hpa", "da", "au", "bar", "ov", "pc", "dm", "dm2", "dm3"]), (0x337A, ["iu"]),
   (0x3380, ["pa", "na"]), (0x3383, ["ma", "ka", "kb", "mb", "gb", "cal", "kcal", "pf", "nf"]),
   (0x338E, ["mg", "kg", "hz", "khz", "mhz", "ghz", "thz"]),
   (0x3396, ["ml", "dl", "kl", "fm", "nm"]),
   (0x339C, ["mm", "cm", "km", "mm2", "cm2", "m2", "km2", "mm3", "cm3"]), (0x33A5, ["m3", "km3"]),
   (0x33A9, ["pa", "kpa", "mpa", "gpa", "rad"]), (0x33B0, ["ps", "ns"]),
   (0x33B3, ["ms", "pv", "nv"]), (0x33B7, ["mv", "kv", "mv", "pw", "nw"]),
   (0x33BD, ["mw", "kw", "mw"]), (0x33C3, ["bq", "cc", "cd"]),
   (0x33C8, ["db", "gy", "ha", "hp", "in", "kk", "km", "kt", "lm"]),
   (0x33D1, ["ln", "log", "lx", "mb", "mil", "mol", "ph"]),
   (0x33D9, ["ppm", "pr", "sr", "sv", "wb"]), (0x33FF, ["gal"]),
   (0xFB00, ["ff", "fi", "fl", "ffi", "ffl", "st", "st"]), (0x1F12D, ["cd", "wz"]),
   (0x1F14A, ["hv", "mv", "sd", "ss", "ppv", "wc"]), (0x1F16A, ["mc", "md", "mr"]),
   (0x1F190, ["dj"])]

/-- What the character of number `n` is a variant of. -/
def plain? (n : Nat) : Option (List Char) :=
  let alphabet := (variantAlphabets.find? fun r => r.1 ≤ n && n ≤ r.2.1).bind fun r =>
    r.2.2[(n - r.1) % r.2.2.length]?.map ([·])
  let stretch := variantStretches.findSome? fun r =>
    if n < r.1 then none else r.2.toList[n - r.1]?.map ([·])
  let word := variantWords.findSome? fun r =>
    if n < r.1 then none else r.2[n - r.1]?.map String.toList
  (alphabet.or stretch).or word

/-! ### Other characters -/

/-- The ranges of the invisible characters that do not count. -/
def invisibleRanges : List (Nat × Nat) :=
  [(0xAD, 0xAD), (0x34F, 0x34F), (0x115F, 0x1160), (0x17B4, 0x17B5), (0x180B, 0x180F),
   (0x200B, 0x200B), (0x2060, 0x2064), (0x206A, 0x206F), (0x3164, 0x3164), (0xFE00, 0xFE0F),
   (0xFEFF, 0xFEFF), (0xFFA0, 0xFFA0), (0x1BCA0, 0x1BCA3), (0x1D173, 0x1D17A), (0xE0100, 0xE01EF)]

/-- The ranges of the variants of something that no host name holds. -/
def unfitRanges : List (Nat × Nat) :=
  [(0xA8, 0xA8), (0xAF, 0xAF), (0xB4, 0xB4), (0xB8, 0xB8), (0x2D8, 0x2DD), (0x37A, 0x37A),
   (0x37E, 0x37E), (0x384, 0x385), (0x1FBD, 0x1FBD), (0x1FBF, 0x1FC1), (0x1FCD, 0x1FCF),
   (0x1FDD, 0x1FDF), (0x1FED, 0x1FEF), (0x1FFD, 0x1FFE), (0x2017, 0x2017), (0x2024, 0x2026),
   (0x203C, 0x203C), (0x203E, 0x203E), (0x2047, 0x2049), (0x207A, 0x207A), (0x207C, 0x207E),
   (0x208A, 0x208A), (0x208C, 0x208E), (0x2100, 0x2101), (0x2105, 0x2106), (0x2474, 0x24B5),
   (0x2A74, 0x2A76), (0x2FF0, 0x2FFF), (0x309B, 0x309C), (0x31EF, 0x31EF), (0x3200, 0x321E),
   (0x3220, 0x3243), (0x33C2, 0x33C2), (0x33C7, 0x33C7), (0x33D8, 0x33D8), (0xFB29, 0xFB29),
   (0xFC5E, 0xFC63), (0xFDFA, 0xFDFB), (0xFE10, 0xFE10), (0xFE12, 0xFE16), (0xFE19, 0xFE19),
   (0xFE30, 0xFE30), (0xFE33, 0xFE38), (0xFE47, 0xFE50), (0xFE52, 0xFE52), (0xFE54, 0xFE57),
   (0xFE59, 0xFE5C), (0xFE5F, 0xFE62), (0xFE64, 0xFE66), (0xFE68, 0xFE6B), (0xFE70, 0xFE70),
   (0xFE72, 0xFE72), (0xFE74, 0xFE74), (0xFE76, 0xFE76), (0xFE78, 0xFE78), (0xFE7A, 0xFE7A),
   (0xFE7C, 0xFE7C), (0xFE7E, 0xFE7E), (0xFF01, 0xFF0C), (0xFF0F, 0xFF0F), (0xFF1A, 0xFF20),
   (0xFF3B, 0xFF40), (0xFF5B, 0xFF5E), (0xFFE3, 0xFFE3), (0xFFFC, 0xFFFD), (0x1F100, 0x1F10A),
   (0x1F110, 0x1F129)]

/-- `n` lies in one of the ranges. -/
def within (ranges : List (Nat × Nat)) (n : Nat) : Bool :=
  ranges.any fun r => r.1 ≤ n && n ≤ r.2

/-! ### Folding -/

/-- What a character of a host name counts as, unless it makes the name unsound. -/
def fold? (c : Char) : Option (List Char) :=
  if c.toNat < 0x80 then some [c.toLower]
  else if within invisibleRanges c.toNat then some []
  else if Text.isUnprintable c || within unfitRanges c.toNat then none
  else some ((plain? c.toNat).getD [c])

example : fold? 'K' = some ['k'] := by decide +kernel
example : fold? '\uff4b' = some ['k'] := by decide +kernel
example : fold? '\u2168' = some ['i', 'x'] := by decide +kernel
example : fold? '\u2474' = none := by decide +kernel

end EgressPolicy.HostName
