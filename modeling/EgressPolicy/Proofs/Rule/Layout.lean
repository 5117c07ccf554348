/-
EgressPolicy/Proofs/Rule/Layout.lean

Rule files in any layout.

`RuleFile.Layout rules text` says which texts lay out some rules: the words of
each rule stand on a line of their own, with blanks before, between and after
them; blank lines and comments stand wherever they like; and a line ends with a
line feed or with a carriage return and a line feed, except that the last one
may just end.  Every such text reads as exactly its rules (`parse_of_layout`).

Two facts carry the proof.  Blanks that are no line feed change neither the
words of a line (`fields_of_spaced`) nor where lines end, so the lines of a
text can be taken off one by one, a carriage return counting as the last blank
of its line (`LineOf.concat_return`).  And a line that holds a rule is never
taken for a comment (`isSilent_of_parse`).
-/
import Mathlib
import EgressPolicy.Proofs.Rule.Grammar
import EgressPolicy.Rule.File

namespace EgressPolicy

/-! ### Words with blanks around them -/

namespace Text

/-- Blanks, of which none ends a line. -/
def IsGap (cs : List Char) : Prop := ∀ c ∈ cs, isBlank c = true ∧ c ≠ '\n'

instance : DecidablePred IsGap := fun cs =>
  List.decidableBAll (fun c => isBlank c = true ∧ c ≠ '\n') cs

/-- The line holds the words in their order, with at least one blank between
any two of them, and further blanks anywhere but inside a word. -/
inductive Spaced : List (List Char) → List Char → Prop
  | last {w before after : List Char} :
      IsGap before → IsGap after → Spaced [w] (before ++ w ++ after)
  | cons {w : List Char} {ws : List (List Char)} {before line : List Char} {c : Char} :
      IsGap before → IsGap [c] → Spaced ws line → Spaced (w :: ws) (before ++ w ++ c :: line)

theorem IsGap.append {xs ys : List Char} (hx : IsGap xs) (hy : IsGap ys) : IsGap (xs ++ ys) := by
  intro c hc
  rcases List.mem_append.mp hc with hc | hc
  · exact hx c hc
  · exact hy c hc

theorem IsGap.newline_notMem {cs : List Char} (h : IsGap cs) : '\n' ∉ cs :=
  fun hc => (h '\n' hc).2 rfl

theorem IsGap.blank {cs : List Char} (h : IsGap cs) : ∀ c ∈ cs, isBlank c = true :=
  fun c hc => (h c hc).1

/-- The fields of spaced words are the words. -/
theorem fields_of_spaced {ws : List (List Char)} {line : List Char} (h : Spaced ws line)
    (hne : [] ∉ ws) (hblank : ∀ w ∈ ws, ∀ c ∈ w, isBlank c = false) : fields line = ws := by
  induction h with
  | @last w before after hbefore hafter =>
    rw [fields_append_blanks hafter.blank, fields_blanks_append hbefore.blank]
    exact fields_of_no_blank (fun hw => hne (by simp [hw])) (hblank w List.mem_cons_self)
  | @cons w ws before line c hbefore hc _ ih =>
    have hw : fields w = [w] :=
      fields_of_no_blank (fun hw => hne (by simp [hw])) (hblank w List.mem_cons_self)
    have hws : fields line = ws :=
      ih (fun hw => hne (List.mem_cons_of_mem _ hw))
        fun x hx => hblank x (List.mem_cons_of_mem _ hx)
    rw [fields_append_blank _ _ (hc.blank c List.mem_cons_self),
      fields_blanks_append hbefore.blank, hw, hws, List.singleton_append]

/-- No line ends among spaced words. -/
theorem Spaced.newline_notMem {ws : List (List Char)} {line : List Char} (h : Spaced ws line)
    (hblank : ∀ w ∈ ws, ∀ c ∈ w, isBlank c = false) : '\n' ∉ line := by
  have hword : ∀ w ∈ ws, '\n' ∉ w := by
    intro w hw hmem
    exact absurd (hblank w hw '\n' hmem) (by decide)
  clear hblank
  induction h with
  | last hbefore hafter =>
    simp [hbefore.newline_notMem, hafter.newline_notMem, hword]
  | cons hbefore hc _ ih =>
    have hline := ih fun x hx => hword x (List.mem_cons_of_mem _ hx)
    have hsep := hc.newline_notMem
    rw [List.mem_singleton] at hsep
    simp [hbefore.newline_notMem, hsep, hline, hword]

/-- Blanks may be added at the end. -/
theorem Spaced.append_gap {ws : List (List Char)} {line gap : List Char} (h : Spaced ws line)
    (hgap : IsGap gap) : Spaced ws (line ++ gap) := by
  induction h with
  | last hbefore hafter =>
    rw [List.append_assoc]
    exact .last hbefore (hafter.append hgap)
  | cons hbefore hc _ ih =>
    rw [List.append_assoc, List.cons_append]
    exact .cons hbefore hc ih

end Text

open Text

/-! ### Layouts -/

namespace RuleFile

/-- A line, without what ends it, and the rules on it, of which there is one at
most. -/
inductive LineOf : List Rule → List Char → Prop
  | blank {gap : List Char} : IsGap gap → LineOf [] gap
  | comment {gap text : List Char} : IsGap gap → '\n' ∉ text → LineOf [] (gap ++ '#' :: text)
  | rule {r : Rule} {line : List Char} : Spaced (fields r.render.toList) line → LineOf [r] line

/-- The text lays out the rules, a line for each and in their order. -/
inductive Layout : List Rule → List Char → Prop
  | last {rules : List Rule} {line : List Char} : LineOf rules line → Layout rules line
  | feed {here later : List Rule} {line text : List Char} :
      LineOf here line → Layout later text → Layout (here ++ later) (line ++ '\n' :: text)
  | returnFeed {here later : List Rule} {line text : List Char} :
      LineOf here line → Layout later text → Layout (here ++ later) (line ++ '\r' :: '\n' :: text)

theorem LineOf.newline_notMem {rules : List Rule} {line : List Char} (h : LineOf rules line) :
    '\n' ∉ line := by
  cases h with
  | blank hgap => exact hgap.newline_notMem
  | comment hgap htext => simp [hgap.newline_notMem, htext]
  | rule hline =>
    exact hline.newline_notMem fun w hw => not_blank_of_mem_splitOnP (List.mem_of_mem_filter hw)

/-- A carriage return at the end of a line adds nothing to it. -/
theorem LineOf.concat_return {rules : List Rule} {line : List Char} (h : LineOf rules line) :
    LineOf rules (line ++ ['\r']) := by
  have hreturn : IsGap ['\r'] := by decide
  cases h with
  | blank hgap => exact .blank (hgap.append hreturn)
  | comment hgap htext =>
    rw [List.append_assoc, List.cons_append]
    exact .comment hgap (by simp [htext])
  | rule hline => exact .rule (hline.append_gap hreturn)

/-! ### Silent lines -/

theorem isSilent_gap {gap : List Char} (h : IsGap gap) : isSilent gap = true := by
  have hnil : gap.dropWhile isBlank = [] := List.dropWhile_eq_nil_iff.mpr h.blank
  rw [isSilent, hnil]

theorem isSilent_comment {gap : List Char} (h : IsGap gap) (text : List Char) :
    isSilent (gap ++ '#' :: text) = true := by
  have hdrop : (gap ++ '#' :: text).dropWhile isBlank = '#' :: text := by
    rw [List.dropWhile_append_of_pos h.blank]
    rfl
  rw [isSilent, hdrop]
  rfl

/-- No action is written with a `#` in front. -/
theorem head?_ne_of_ofField? {field : String} {v : Verb} (h : Verb.ofField? field = some v) :
    field.toList.head? ≠ some '#' := by
  intro hhead
  have hletters := sameLetters_iff.mp (Verb.ofField?_eq_some_iff.mp h)
  have hlower := congrArg (fun s : String => s.toList.head?) hletters
  simp only [toList_lower, List.head?_map, hhead] at hlower
  cases v <;> simp [Verb.word] at hlower

/-- A line that holds a rule is not silent. -/
theorem isSilent_of_parse {line : List Char} {r : Rule}
    (h : Rule.parse (String.ofList line) = .ok r) : isSilent line = false := by
  obtain ⟨verb, kind, rest, hwords, hr⟩ := Rule.exists_wordsOf_of_parse h
  obtain ⟨v, -, hv, -⟩ := Rule.ofFields_eq_ok_iff.mp hr
  have hfields : fields (line.dropWhile isBlank) = fields line := by
    conv_rhs => rw [← List.takeWhile_append_dropWhile (p := isBlank) (l := line)]
    exact (fields_blanks_append (fun c hc => List.mem_takeWhile_imp hc) _).symm
  rw [Rule.wordsOf, String.toList_ofList, ← hfields] at hwords
  rw [isSilent]
  rcases hdrop : line.dropWhile isBlank with - | ⟨c, cs⟩
  · rw [hdrop] at hwords
    simp at hwords
  · rw [beq_eq_false_iff_ne]
    rintro rfl
    -- the first word would start with the `#`
    obtain ⟨w, ws, hw⟩ := exists_fields_cons (by decide : isBlank '#' = false) cs
    rw [hdrop, hw, List.map_cons] at hwords
    have hverb : verb = String.ofList ('#' :: w) := (List.cons.inj hwords).1.symm
    exact head?_ne_of_ofField? hv (by simp [hverb])

/-! ### Files -/

/-- One line of a layout contributes its rules. -/
theorem LineOf.parseLines_cons {here : List Rule} {line : List Char} (h : LineOf here line)
    (hrules : ∀ r ∈ here, Rule.parse r.render = .ok r) (number : Nat) (lines : List (List Char)) :
    parseLines number (line :: lines) = (parseLines (number + 1) lines).map (here ++ ·) := by
  have hmap : ∀ x : Except LineError (List Rule), x.map ([] ++ ·) = x := by
    intro x
    cases x <;> rfl
  cases h with
  | blank hgap => rw [parseLines, if_pos (isSilent_gap hgap), hmap]
  | comment hgap _ => rw [parseLines, if_pos (isSilent_comment hgap _), hmap]
  | @rule r _ hline =>
    have hparse : Rule.parse (String.ofList line) = .ok r := by
      have hfields : fields line = fields r.render.toList :=
        fields_of_spaced hline (nil_notMem_fields _) fun w hw =>
          not_blank_of_mem_splitOnP (List.mem_of_mem_filter hw)
      rw [Rule.parse, String.toList_ofList, hfields]
      exact hrules r List.mem_cons_self
    rw [parseLines, if_neg (by simp [isSilent_of_parse hparse]), hparse]
    rfl

/-- One line of a layout and the text after it hold the rules of both. -/
theorem LineOf.parseLines_append {here later : List Rule} {line text : List Char}
    (h : LineOf here line) (hrules : ∀ r ∈ here, Rule.parse r.render = .ok r) {number : Nat}
    (hlater : parseLines (number + 1) (text.splitOn '\n') = .ok later) :
    parseLines number ((line ++ '\n' :: text).splitOn '\n') = .ok (here ++ later) := by
  rw [List.splitOn_append_cons_self_of_not_mem h.newline_notMem, h.parseLines_cons hrules, hlater]
  rfl

/-- The lines of a layout hold its rules, wherever their numbers start. -/
theorem Layout.parseLines_splitOn {rules : List Rule} {text : List Char} (h : Layout rules text)
    (hrules : ∀ r ∈ rules, Rule.parse r.render = .ok r) (number : Nat) :
    parseLines number (text.splitOn '\n') = .ok rules := by
  induction h generalizing number with
  | @last rules line hline =>
    rw [List.splitOn_eq_singleton hline.newline_notMem, hline.parseLines_cons hrules, parseLines]
    exact congrArg Except.ok (List.append_nil rules)
  | feed hline _ ih =>
    exact hline.parseLines_append (fun r hr => hrules r (List.mem_append_left _ hr))
      (ih (fun r hr => hrules r (List.mem_append_right _ hr)) (number + 1))
  | @returnFeed _ _ line text hline _ ih =>
    -- the carriage return is the last blank of its line
    have hcut : line ++ '\r' :: '\n' :: text = (line ++ ['\r']) ++ '\n' :: text := by simp
    rw [hcut]
    exact hline.concat_return.parseLines_append (fun r hr => hrules r (List.mem_append_left _ hr))
      (ih (fun r hr => hrules r (List.mem_append_right _ hr)) (number + 1))

/-- **Whatever lays out some rules reads as these rules**, if each of them
reads back from its own text: none is lost, none comes in, and their order
stays. -/
theorem parse_of_layout {rules : List Rule} {content : String}
    (hrules : ∀ r ∈ rules, Rule.parse r.render = .ok r) (h : Layout rules content.toList) :
    parse content = .ok rules :=
  h.parseLines_splitOn hrules 1

/-! ### A sample file -/

namespace Sample

/-- A rule on a suffix, between other blanks than spaces. -/
def suffixLine : List Char :=
  ['\u0085'] ++ "block".toList ++ '\x0b' ::
    ([] ++ "domain-suffix".toList ++ '\r' :: (['\u3000'] ++ "a.test".toList ++ [' ']))

/-- A rule on everything. -/
def hijackLine : List Char :=
  [] ++ "hijack".toList ++ ' ' :: ([] ++ "all".toList ++ ' ' :: ([] ++ "10.0.0.1".toList ++ []))

theorem lineOf_suffixLine : LineOf [⟨.block, .domainSuffix "a.test"⟩] suffixLine := by
  refine .rule ?_
  have hwords : fields (Rule.render ⟨.block, .domainSuffix "a.test"⟩).toList
      = ["block".toList, "domain-suffix".toList, "a.test".toList] := by
    decide +kernel
  rw [hwords]
  exact .cons (by decide) (by decide) (.cons (by decide) (by decide)
    (.last (by decide) (by decide)))

theorem lineOf_hijackLine : LineOf [⟨.hijack "10.0.0.1", .all⟩] hijackLine := by
  refine .rule ?_
  have hwords : fields (Rule.render ⟨.hijack "10.0.0.1", .all⟩).toList
      = ["hijack".toList, "all".toList, "10.0.0.1".toList] := by
    decide +kernel
  rw [hwords]
  exact .cons (by decide) (by decide) (.cons (by decide) (by decide)
    (.last (by decide) (by decide)))

end Sample

/-- Two rules after a comment and a line of nothing but a separator, with a lone
carriage return between words and no line end after the last one. -/
theorem parse_of_layout_mixed :
    parse ("\t# block all\r\n\u2028\n\u0085block\x0bdomain-suffix\r\u3000a.test \r\n" ++
        "hijack all 10.0.0.1")
      = .ok [⟨.block, .domainSuffix "a.test"⟩, ⟨.hijack "10.0.0.1", .all⟩] := by
  have hrules : ∀ r ∈ ([⟨.block, .domainSuffix "a.test"⟩, ⟨.hijack "10.0.0.1", .all⟩] : List Rule),
      Rule.parse r.render = .ok r := by
    simp only [List.forall_mem_cons]
    decide +kernel
  refine parse_of_layout hrules ?_
  have htext : String.toList
      ("\t# block all\r\n\u2028\n\u0085block\x0bdomain-suffix\r\u3000a.test \r\n" ++
        "hijack all 10.0.0.1")
      = (['\t'] ++ '#' :: " block all".toList) ++ '\r' :: '\n' :: (['\u2028'] ++ '\n' ::
        (Sample.suffixLine ++ '\r' :: '\n' :: Sample.hijackLine)) := by
    decide +kernel
  rw [htext]
  exact .returnFeed (.comment (by decide) (by decide))
    (.feed (.blank (by decide))
      (.returnFeed Sample.lineOf_suffixLine (.last Sample.lineOf_hijackLine)))

end RuleFile
end EgressPolicy
