import ComponentBook.Proofs.Script.Code
import ComponentBook.Proofs.Text.Blank
import ComponentBook.Proofs.Text.Lines
import ComponentBook.Script.DocComment

/-! # Documentation comments in front of a declaration

A documentation comment is written as its text between `/**` and the end of the comment. It is found in
front of the place that follows it, whatever stands in front of it (**`commentBefore?_written`**). What is
found is its text, except for a text that ends in `/*`: the opening of a comment is looked for from the end,
and the two characters and the asterisk behind them count as one. -/

namespace ComponentBook.Script.DocComment

open Text

variable {a b blank front r t text w : Text} {c : Char}

/-- The text of a documentation comment that is written as such: a blank character, and neither the opening
nor the end of a comment. -/
structure IsDocText (text : Text) : Prop where
  exists_blank : ∃ c u, text = c :: u ∧ isBlank c = true
  no_opening : ¬ "/**".toList <:+: text
  no_closing : ¬ "*/".toList <:+: text

/-- The comment with the given text. -/
def written (text : Text) : Text := "/**" ++ (text ++ "*/")

/-! ## The last occurrence -/

theorem afterLast?_eq_none_iff : afterLast? w t = none ↔ ¬ w <:+: t := by
  induction t with
  | nil => rw [afterLast?, dropPrefix?_eq_none_iff, List.infix_nil, List.prefix_nil]
  | cons c t ih =>
    rw [afterLast?, Option.or_eq_none_iff, ih, dropPrefix?_eq_none_iff, List.infix_cons_iff]
    tauto

theorem afterLast?_append (h : afterLast? w t = some r) (a : Text) :
    afterLast? w (a ++ t) = some r := by
  induction a with
  | nil => exact h
  | cons c a ih => rw [List.cons_append, afterLast?, ih, Option.some_or]

/-- An occurrence is the last one when none starts behind its first character. -/
theorem afterLast?_of_here (h : ¬ c :: w <:+: w ++ r) :
    afterLast? (c :: w) (c :: w ++ r) = some r := by
  rw [List.cons_append, afterLast?, afterLast?_eq_none_iff.2 h, Option.none_or, ← List.cons_append,
    dropPrefix?_append]

/-! ## Tags -/

/-- The decoration of a line stands at its start. -/
theorem undecorateLine_suffix (line : Text) : undecorateLine line <:+ line := by
  have hleft : stripLeft line <:+ line := List.dropWhile_suffix isBlank
  have hdrop : ∀ r, dropDecoration? line = some r → r <:+ line := by
    intro r hr
    rw [dropDecoration?] at hr
    split at hr
    · cases hr
    · next c t _ he =>
      obtain rfl := Option.some.inj hr
      have htail : c :: t <:+ line := (List.suffix_cons '*' (c :: t)).trans (he ▸ hleft)
      split
      · exact (List.suffix_cons c t).trans htail
      · exact htail
    · obtain rfl := Option.some.inj hr
      exact List.nil_suffix
    · cases hr
  rw [undecorateLine]
  cases hdropped : dropDecoration? line with
  | none => exact List.suffix_rfl
  | some r => exact hdrop r hdropped

/-- A comment without the mark of tags has no tag. -/
theorem tagValue?_eq_none (tag : Text) (h : '@' ∉ t) : tagValue? tag t = none := by
  have hnone : t.lines.findSome? (fun l => afterTag? tag (undecorateLine l).strip) = none := by
    rw [List.findSome?_eq_none_iff]
    intro l hl
    have hdrop : Text.dropPrefix? ('@' :: tag) (undecorateLine l).strip = none := by
      rw [dropPrefix?_eq_none_iff]
      intro hprefix
      have hin : '@' ∈ (undecorateLine l).strip := hprefix.subset List.mem_cons_self
      exact h (mem_of_mem_lines hl ((undecorateLine_suffix l).subset ((strip_sublist _).subset hin)))
    rw [afterTag?, hdrop]
  rw [tagValue?, hnone]

/-! ## Comments -/

theorem commentBefore?_eq_none (h : ¬ "*/".toList <:+ t.stripRight) : commentBefore? t = none := by
  rw [commentBefore?, if_neg]
  rwa [endsWith_eq_true_iff]

namespace IsDocText

/-- The opening of a comment does not stand behind its first character, unless the text ends in one. -/
theorem not_opening_infix (h : IsDocText text) (hend : ¬ "/*".toList <:+ text) :
    ¬ "/**".toList <:+: "**".toList ++ (text ++ "*/") := by
  -- a place at which the opening starts lies in the text or at its end
  have htext : ∀ x y, text = x ++ y → ¬ "/**".toList <:+: y ++ "*/" := by
    intro x y hxy hin
    induction y generalizing x with
    | nil => exact absurd hin (by decide)
    | cons c y ih =>
      rw [List.cons_append, List.infix_cons_iff] at hin
      rcases hin with hprefix | hlater
      · rcases List.prefix_or_prefix_of_prefix hprefix (List.prefix_append (c :: y) "*/") with hin | hover
        · apply h.no_opening
          rw [hxy]
          exact hin.isInfix.trans (List.suffix_append x _).isInfix
        · obtain ⟨z, hz⟩ := hover
          have hz : c :: (y ++ z) = ['/', '*', '*'] := hz
          rcases y with _ | ⟨d, _ | ⟨e, y⟩⟩
          · obtain rfl : c = '/' := (List.cons.inj hz).1
            exact absurd hprefix (by decide)
          · obtain ⟨rfl, rfl, -⟩ : c = '/' ∧ d = '*' ∧ z = ['*'] := by simpa using hz
            exact hend ⟨x, hxy.symm⟩
          · obtain ⟨rfl, rfl, rfl, rfl, -⟩ : c = '/' ∧ d = '*' ∧ e = '*' ∧ y = [] ∧ z = [] := by
              simpa using hz
            apply h.no_opening
            rw [hxy]
            exact (List.suffix_append x _).isInfix
      · exact ih (x ++ [c]) (by simp [hxy]) hlater
  intro hin
  have hin : '/' :: ['*', '*'] <:+: '*' :: '*' :: (text ++ "*/") := hin
  rw [List.infix_cons_iff, List.infix_cons_iff] at hin
  simp only [List.cons_prefix_cons] at hin
  rcases hin with ⟨he, -⟩ | ⟨he, -⟩ | hin
  · exact absurd he (by decide)
  · exact absurd he (by decide)
  · exact htext [] text rfl hin

/-- The text of the comment is found, or nothing of it when it ends in the opening of a comment. -/
theorem commentBefore?_written (h : IsDocText text) (front : Text) (hblank : blank.allBlank = true) :
    commentBefore? (front ++ (written text ++ blank)) =
      some (if "/*".toList <:+ text then [] else text) := by
  have hshape : front ++ (written text ++ blank) =
      ((front ++ ("/**" ++ text)) ++ "*/") ++ blank := by simp [written]
  have hlast : ∀ c, ((front ++ ("/**" ++ text)) ++ "*/".toList).getLast? = some c → isBlank c = false := by
    intro c hc
    rw [List.getLast?_append] at hc
    obtain rfl : '/' = c := Option.some.inj hc
    decide
  have hends : endsWith ((front ++ ("/**" ++ text)) ++ "*/") "*/" = true :=
    endsWith_eq_true_iff.2 (List.suffix_append _ _)
  rw [hshape, commentBefore?, stripRight_append hlast hblank, if_pos hends]
  by_cases hend : "/*".toList <:+ text
  · -- the last opening is the one at the end of the text
    obtain ⟨u, rfl⟩ := hend
    have hhere : afterLast? "/**" ("/**" ++ ['/']) = some ['/'] := by decide
    have hsame : (front ++ ("/**" ++ (u ++ "/*".toList))) ++ "*/".toList =
        (front ++ ("/**" ++ u)) ++ ("/**" ++ ['/']) := by simp
    rw [hsame, afterLast?_append hhere, if_pos (List.suffix_append _ _)]
    decide
  · -- no opening stands in the text, so that the last one is that of the comment
    have hhere : afterLast? "/**" ("/**" ++ (text ++ "*/")) = some (text ++ "*/") :=
      afterLast?_of_here (c := '/') (w := "**") (h.not_opening_infix hend)
    have hsame : (front ++ ("/**" ++ text)) ++ "*/".toList = front ++ ("/**" ++ (text ++ "*/")) := by simp
    have hbody : (text ++ "*/").take ((text ++ "*/").length - 2) = text := by simp
    have hno : contains text "*/" = false := by
      rw [Bool.eq_false_iff, ne_eq, contains_eq_true_iff]
      exact h.no_closing
    rw [hsame, afterLast?_append hhere, if_neg hend]
    simp only [hbody, hno]
    rfl

/-- The end of a comment does not stand in the text behind its first asterisk. -/
theorem not_closing_infix (h : IsDocText text) : ¬ "*/".toList <:+: '*' :: text := by
  obtain ⟨c, u, rfl, hc⟩ := h.exists_blank
  intro hin
  rcases List.infix_cons_iff.1 hin with hprefix | hin
  · have hprefix : '*' :: ['/'] <+: '*' :: c :: u := hprefix
    rw [List.prefix_cons_inj, List.cons_prefix_cons] at hprefix
    rw [← hprefix.1] at hc
    exact absurd hc (by decide)
  · exact h.no_closing hin

/-- A documentation comment is code. -/
theorem code_written (h : IsDocText text) (isSeparator : Char → Bool) :
    Code true isSeparator (written text) :=
  .blockComment rfl h.not_closing_infix .nil

end IsDocText

end ComponentBook.Script.DocComment
