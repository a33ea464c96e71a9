import ComponentBook.Proofs.Markdown.PagePieces
import ComponentBook.Script.DocComment

/-! # Comments made into one line

Whatever stands in a comment, its prose is words with one space between them, and it does not start with a tag
(**`isTidy_prose`**): the lines up to the first one with a tag are stripped, so the first word starts one of
them. The description of a script is such a prose; on a page it makes one line, for those who read its
description and for the layout (**`IsSingleLine`**). -/

namespace ComponentBook.Script

open Text
open DocComment (prose undecorateLine)

variable {t : Text} {ls : List Text}

/-! ## The prose of a comment -/

/-- The words of lines that have no blanks at their ends start with the first character of one of the lines. -/
theorem exists_line_of_head?_join (hls : ∀ l ∈ ls, l.strip = l) {c : Char}
    (hc : (join [' '] (ls.flatMap words)).head? = some c) : ∃ l ∈ ls, l.head? = some c := by
  obtain ⟨w, ws, hws⟩ : ∃ w ws, ls.flatMap words = w :: ws := by
    apply List.exists_cons_of_ne_nil
    intro hnil
    rw [hnil] at hc
    cases hc
  -- the line that the first word is of
  have hfirst : (ls.flatMap words).head? = some w := by rw [hws]; rfl
  rw [List.head?_flatMap] at hfirst
  obtain ⟨l, hl, hword⟩ := List.exists_of_findSome?_eq_some hfirst
  have hw : IsWord w := isWord_of_mem_words (List.mem_of_head? hword)
  rw [hws, head?_join [' '] ws hw.ne_nil] at hc
  refine ⟨l, hl, ?_⟩
  cases hshape : l with
  | nil =>
    rw [hshape] at hword
    cases hword
  | cons d u =>
    have hd : isBlank d = false := head?_strip_not_blank (by rw [hls l hl, hshape]; rfl)
    obtain ⟨v, vs, hwords⟩ := exists_words_cons hd u
    rw [hshape, hwords] at hword
    obtain rfl := Option.some.inj hword
    exact hc

theorem isSpaced_prose (body : Text) : IsSpaced (prose body) := isSpaced_collapse _

/-- The prose of a comment does not start with a tag. -/
theorem head?_prose_ne (body : Text) : (prose body).head? ≠ some '@' := by
  intro hhead
  rw [prose, collapse, words_join] at hhead
  have hstrip : ∀ l ∈ (body.lines.map fun l => (undecorateLine l).strip).takeWhile
      (fun l => l.head? ≠ some '@'), l.strip = l := by
    intro l hl
    obtain ⟨line, -, rfl⟩ := List.mem_map.1 ((List.takeWhile_sublist _).subset hl)
    exact strip_strip _
  obtain ⟨l, hl, htag⟩ := exists_line_of_head?_join hstrip hhead
  have hno := List.mem_takeWhile_imp hl
  simp [htag] at hno

/-! ## One line of a page -/

/-- A text that makes one line of every page on which it stands between line feeds: a line with something on it
and without blanks at its ends, in front of which and behind which all lines are those of the rest of the page.
This holds for the lines of which the description of a page is read, and for those that the layout reads. -/
structure IsSingleLine (t : Text) : Prop where
  filled : t.allBlank = false
  strip_eq : t.strip = t
  lines_eq : ∀ front back : Text,
    (front ++ '\n' :: (t ++ '\n' :: back)).lines = (front ++ ['\n']).lines ++ t :: back.lines
  pageLines_eq : ∀ front back : Text, Markdown.pageLines (front ++ '\n' :: (t ++ '\n' :: back)) =
    Markdown.writtenLines front ++ t :: Markdown.pageLines back

theorem IsSingleLine.of_isPlain (h : IsPlain t) : IsSingleLine t where
  filled := by simpa [isFilled] using h.filled
  strip_eq := h.strip_eq
  lines_eq front back := by
    have hback : (t ++ '\n' :: back).lines = t :: back.lines :=
      map_fst_brokenLinesAfter_append_newline [] t back h.no_break
    rw [lines_append_newline, hback]
  pageLines_eq front back := by
    rw [Markdown.pageLines_append, Markdown.pageLines_append, Markdown.writtenLines_of_no_break h.no_break]
    rfl

/-- The description of a script is one line. -/
theorem oneLine_description (script : Text) : OneLine (description script) := by
  rw [description]
  split
  · exact .inl rfl
  · exact oneLine_collapse _

/-- **Comments become one tidy line.** The prose of any comment is words one space apart that do not start with
a tag, and the description of any script is empty or a single line of its page. -/
theorem isTidy_prose : (∀ body, IsSpaced (prose body) ∧ (prose body).head? ≠ some '@') ∧
    ∀ script, description script = [] ∨ IsSingleLine (description script) :=
  ⟨fun body => ⟨isSpaced_prose body, head?_prose_ne body⟩,
    fun script => (oneLine_description script).imp_right .of_isPlain⟩

end ComponentBook.Script
