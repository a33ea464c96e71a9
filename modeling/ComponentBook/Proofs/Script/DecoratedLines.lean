import ComponentBook.Proofs.Script.DocComment
import ComponentBook.Proofs.Text.Words
import ComponentBook.Script.DocComment
import ComponentBook.Script.Example
import Mathlib.Data.Option.Basic

/-! # Comments written line by line

A documentation comment is mostly written with each line behind an asterisk (`decorate`). What is said on
such lines is read back, whatever the lines start or end with:

* the description of a script is the words of the lines up to the first one with a tag
  (**`description_writtenComment`**);
* the example of a script is the lines between two fences behind an `@example` tag
  (**`example?_writtenExample`**).

Both are cut out of the script at the first place of a word, the end of the comment or a fence. A word
without blanks and line feeds stands in decorated lines only if it stands in one of the lines
(`not_infix_decoratedLines`). -/

namespace ComponentBook.Script

open Text
open DocComment (dropDecoration? undecorateLine undecorate prose)

variable {after before body language t word : Text} {line : Text} {lines : List Text}

/-! ## Decorated lines -/

/-- A line behind the asterisk that decorates it. -/
def decorate (line : Text) : Text := ' ' :: '*' :: ' ' :: line

/-- Decorated lines, each with its line feed. -/
def decoratedLines (lines : List Text) : Text := lines.flatMap fun line => decorate line ++ ['\n']

@[simp] theorem decoratedLines_nil : decoratedLines [] = [] := rfl

@[simp] theorem decoratedLines_cons (line : Text) (lines : List Text) :
    decoratedLines (line :: lines) = decorate line ++ '\n' :: decoratedLines lines := by
  simp [decoratedLines]

theorem decoratedLines_eq_flatMap (lines : List Text) :
    decoratedLines lines = (lines.map decorate).flatMap fun row => row ++ ['\n'] := by
  rw [decoratedLines, List.flatMap_map]

theorem decoratedLines_append (front back : List Text) :
    decoratedLines (front ++ back) = decoratedLines front ++ decoratedLines back :=
  List.flatMap_append

/-- The decoration is taken off whatever the line starts with. -/
@[simp] theorem dropDecoration?_decorate (line : Text) : dropDecoration? (decorate line) = some line := rfl

@[simp] theorem undecorateLine_decorate (line : Text) : undecorateLine (decorate line) = line := rfl

theorem not_allBlank_decorate (line : Text) : (decorate line).allBlank = false :=
  not_blank_of_mem (c := '*') (by decide) (by simp [decorate])

theorem no_break_decorate (h : ∀ c ∈ line, isLineBreak c = false) :
    ∀ c ∈ decorate line, isLineBreak c = false := by
  have hdecoration : ∀ c ∈ [' ', '*', ' '], isLineBreak c = false := by decide
  exact List.forall_mem_append.2 ⟨hdecoration, h⟩

/-- The lines of decorated lines are these, and those of the text behind them. -/
theorem lines_decoratedLines (h : ∀ line ∈ lines, ∀ c ∈ line, isLineBreak c = false) (t : Text) :
    (decoratedLines lines ++ t).lines = lines.map decorate ++ t.lines := by
  have hunbroken : ∀ row ∈ lines.map decorate, ∀ c ∈ row, isLineBreak c = false :=
    List.forall_mem_map.2 fun line hline => no_break_decorate (h line hline)
  rw [decoratedLines_eq_flatMap, lines_flatMap_newline hunbroken]

/-- Undecorating gives the lines back. -/
theorem undecorate_decoratedLines (h : ∀ line ∈ lines, ∀ c ∈ line, isLineBreak c = false) :
    undecorate (decoratedLines lines) = join ['\n'] lines := by
  cases lines with
  | nil => rfl
  | cons line lines =>
    have hlines : (decoratedLines (line :: lines)).lines = (line :: lines).map decorate := by
      have hlines := lines_decoratedLines h []
      rwa [List.append_nil, show Text.lines [] = [] from rfl, List.append_nil] at hlines
    have hfilled : ((line :: lines).map decorate).filter (fun l => !l.allBlank) =
        (line :: lines).map decorate := by
      rw [List.filter_eq_self, List.forall_mem_map]
      intro l _
      rw [not_allBlank_decorate]
      rfl
    have hdecorated : ((line :: lines).map decorate).all (fun l => (dropDecoration? l).isSome) = true := by
      rw [List.all_eq_true, List.forall_mem_map]
      intro l _
      rw [dropDecoration?_decorate]
      rfl
    have hback : ((line :: lines).map decorate).map undecorateLine = line :: lines := by
      rw [List.map_map]
      exact List.map_id _
    rw [undecorate, hlines, hfilled, hdecorated, hback]
    rfl

/-! ## Words in decorated lines -/

/-- What is looked for in comments: a word of two characters at least, without spaces and line feeds. -/
structure IsMark (word : Text) : Prop where
  two_le : 2 ≤ word.length
  no_space : ' ' ∉ word
  no_feed : '\n' ∉ word

theorem IsMark.ne_nil (h : IsMark word) : word ≠ [] := by
  rintro rfl
  exact absurd h.two_le (by decide)

/-- A mark does not stand in the decoration of a line. -/
theorem IsMark.infix_of_decoration (h : IsMark word) (hin : word <:+: decorate t) : word <:+: t := by
  have hshort {s : Text} (hs : s.length < 2) : ¬ word <:+: s := by
    intro hin
    have hlength := hin.length_le
    have htwo := h.two_le
    omega
  have hshape : decorate t = [] ++ ' ' :: (['*'] ++ ' ' :: t) := rfl
  rw [hshape] at hin
  rcases infix_or_infix_of_not_mem h.ne_nil h.no_space hin with hnil | hin
  · exact absurd hnil (hshort (by decide))
  · rcases infix_or_infix_of_not_mem h.ne_nil h.no_space hin with hstar | hin
    · exact absurd hstar (hshort (by decide))
    · exact hin

/-- A word without line feeds that stands in none of the rows does not stand in them with a line feed behind
each. -/
theorem not_infix_flatMap_newline {rows : List Text} (hne : word ≠ []) (hfeed : '\n' ∉ word)
    (h : ∀ row ∈ rows, ¬ word <:+: row) (ht : ¬ word <:+: t) :
    ¬ word <:+: (rows.flatMap fun row => row ++ ['\n']) ++ t := by
  induction rows with
  | nil => exact ht
  | cons row rows ih =>
    rw [List.forall_mem_cons] at h
    intro hin
    rw [List.flatMap_cons, List.append_assoc, List.append_assoc, List.singleton_append] at hin
    rcases infix_or_infix_of_not_mem hne hfeed hin with hrow | hlater
    · exact h.1 hrow
    · exact ih h.2 hlater

/-- A mark that stands in none of the lines does not stand in them once they are decorated. -/
theorem not_infix_decoratedLines (hword : IsMark word) (h : ∀ line ∈ lines, ¬ word <:+: line)
    (ht : ¬ word <:+: t) : ¬ word <:+: decoratedLines lines ++ t := by
  rw [decoratedLines_eq_flatMap]
  exact not_infix_flatMap_newline hword.ne_nil hword.no_feed
    (List.forall_mem_map.2 fun line hline => mt hword.infix_of_decoration (h line hline)) ht

/-- A word that does not stand in a text does not start in it either, when the text ends with a character that
is none of the word's. -/
theorem not_prefix_of_last {d : Char} {s : Text} (hlast : s.getLast? = some d) (hd : d ∉ word)
    (h : ¬ word <:+: s) (t : Text) : ∀ x y, s = x ++ y → y ≠ [] → ¬ word <+: y ++ t := by
  rintro x y rfl hy hprefix
  rcases List.prefix_or_prefix_of_prefix hprefix (List.prefix_append y t) with hin | hin
  · exact h (hin.isInfix.trans (List.suffix_append x y).isInfix)
  · rw [List.getLast?_append_of_ne_nil _ hy] at hlast
    exact hd (hin.subset (List.mem_of_getLast? hlast))

/-! ## The description -/

/-- A documentation comment with the given lines, each behind an asterisk. -/
def writtenComment (lines : List Text) : Text := "/**\n" ++ (decoratedLines lines ++ " */")

theorem isMark_closing : IsMark "*/" := ⟨by decide, by decide, by decide⟩

/-- The comment opens at the end of its first line, and its body goes up to its last line. -/
theorem openComment?_writtenComment (h : ∀ line ∈ lines, ¬ "*/".toList <:+: line) (after : Text) :
    openComment? (writtenComment lines ++ after) = some (decoratedLines lines ++ [' ']) := by
  have hcut : cut? "*/" ((decoratedLines lines ++ [' ']) ++ ("*/" ++ after)) =
      some (decoratedLines lines ++ [' '], after) :=
    cut?_of_absent (by decide) (not_infix_decoratedLines isMark_closing h (by decide)) after
  have hshape : writtenComment lines ++ after =
      "/**" ++ '\n' :: ((decoratedLines lines ++ [' ']) ++ ("*/" ++ after)) := by
    simp [writtenComment]
  have hfeed (t : Text) : List.dropWhile isSpaceOrTab ('\n' :: t) = '\n' :: t :=
    List.dropWhile_cons_of_neg (by decide)
  rw [hshape, openComment?, dropPrefix?_append]
  simp only [hfeed, hcut, Option.bind_eq_bind, Option.bind_some, Option.pure_def]

/-- The prose of the body: the words of the lines up to the first one with a tag. The line on which the comment
ends is blank. -/
theorem prose_decoratedLines (h : ∀ line ∈ lines, ∀ c ∈ line, isLineBreak c = false) :
    prose (decoratedLines lines ++ [' ']) =
      join [' '] ((lines.takeWhile fun line => line.strip.head? ≠ some '@').flatMap words) := by
  have hlines : ((decoratedLines lines ++ [' ']).lines.map fun l => (undecorateLine l).strip) =
      lines.map strip ++ [[]] := by
    rw [lines_decoratedLines h, List.map_append, List.map_map]
    rfl
  have hwords : ((lines.map strip ++ [[]]).takeWhile fun l : Text => l.head? ≠ some '@').flatMap words =
      (lines.takeWhile fun line => line.strip.head? ≠ some '@').flatMap words := by
    clear h hlines
    induction lines with
    | nil => rfl
    | cons line lines ih =>
      rw [List.map_cons, List.cons_append, List.takeWhile_cons, List.takeWhile_cons]
      split
      · rw [List.flatMap_cons, List.flatMap_cons, words_strip, ih]
      · rfl
  rw [prose, hlines, collapse, words_join, hwords]

/-- **A description is read back.** It is the words of the lines in front of the first one that starts with a
tag, one space apart, whatever else the lines start with. -/
theorem description_writtenComment (hbefore : ¬ "/**".toList <:+: before)
    (hlines : ∀ line ∈ lines, ¬ "*/".toList <:+: line ∧ ∀ c ∈ line, isLineBreak c = false) (after : Text) :
    description (before ++ (writtenComment lines ++ after)) =
      join [' '] ((lines.takeWhile fun line => line.strip.head? ≠ some '@').flatMap words) := by
  -- no comment opens in front of this one
  have hnone : ∀ x y, before = x ++ y → y ≠ [] → openComment? (y ++ (writtenComment lines ++ after)) = none := by
    have hhead : ∀ d, (writtenComment lines ++ after).head? = some d → d ∉ ['*', '*'] := by
      intro d hd
      obtain rfl : '/' = d := Option.some.inj hd
      decide
    intro x y hxy hy
    have hdrop : dropPrefix? "/**" (y ++ (writtenComment lines ++ after)) = none :=
      dropPrefix?_eq_none_iff.2 (not_prefix_of_absent hbefore hhead x y hxy hy)
    rw [openComment?, hdrop]
    rfl
  have hhere := openComment?_writtenComment (fun line hline => (hlines line hline).1) after
  have hsearch : search (fun _ t => openComment? t) none (before ++ (writtenComment lines ++ after)) =
      some (before, decoratedLines lines ++ [' ']) :=
    search_of_first_place hnone hhere
  rw [description, hsearch]
  exact prose_decoratedLines fun line hline => (hlines line hline).2

/-- Lines that start with what a comment is made of, an empty one, and one that starts with a tag. -/
def awkwardLines : List Text := ["* A  *button*", "", "\t/ with icons. *", "a@b", "  @example", "ignored"]

theorem description_awkwardLines :
    description ("// a\n/* b */ /" ++ (writtenComment awkwardLines ++ "\nexport default \x7b\x7d")) =
      "* A *button* / with icons. * a@b".toList := by
  rw [description_writtenComment (by decide) (by decide)]
  decide

/-! ## The example -/

/-- An `@example` tag and a block of code between two fences, line by line. -/
def writtenExample (language : Text) (lines : List Text) : Text :=
  decoratedLines ["@example", fence ++ language] ++ (decoratedLines lines ++ decorate fence)

theorem isMark_fence : IsMark fence := ⟨by decide, by decide, by decide⟩

/-- The text behind the tag is that between the fences. -/
theorem fencedExample?_tag (hlanguage : ∀ c ∈ language, (isWord c || c = '-') = true)
    (h : ∀ line ∈ lines, ¬ fence <:+: line) (after : Text) :
    fencedExample? ("@example" ++ '\n' :: (decorate (fence ++ language) ++
        '\n' :: (decoratedLines lines ++ (decorate fence ++ after)))) =
      some (decoratedLines lines ++ [' ', '*', ' ']) := by
  have hbehind : decoratedLines lines ++ (decorate fence ++ after) =
      (decoratedLines lines ++ [' ', '*', ' ']) ++ (fence ++ after) := by
    simp [decorate]
  have hcut : cut? fence (decoratedLines lines ++ (decorate fence ++ after)) =
      some (decoratedLines lines ++ [' ', '*', ' '], after) := by
    rw [hbehind]
    apply cut?_append
    have hnot : ¬ fence <:+: decoratedLines lines ++ [' ', '*', ' '] :=
      not_infix_decoratedLines isMark_fence h (by decide)
    exact not_prefix_of_last (d := ' ') (by simp) (by decide) hnot _
  generalize decoratedLines lines ++ (decorate fence ++ after) = code at hcut
  -- the rest of the line with the tag, the decoration of the next one, the language and the line feed behind it
  have hline : ('\n' :: (decorate (fence ++ language) ++ '\n' :: code)).dropWhile
      (fun c => c ≠ '\n' && c ≠ backquote) = '\n' :: (decorate (fence ++ language) ++ '\n' :: code) := rfl
  have hdecoration : dropExampleDecoration (decorate (fence ++ language) ++ '\n' :: code) =
      fence ++ (language ++ '\n' :: code) := by
    simp [dropExampleDecoration, decorate, fence, isSpaceOrTab, backquote]
  have hword : (language ++ '\n' :: code).dropWhile (fun c => isWord c || c = '-') = '\n' :: code := by
    refine dropWhile_append_of_stop hlanguage fun d hd => ?_
    obtain rfl : '\n' = d := Option.some.inj hd
    decide
  have hspace : ('\n' :: code).dropWhile isSpaceOrTab = '\n' :: code := rfl
  have hreturn : (dropPrefix? ['\r'] ('\n' :: code)).getD ('\n' :: code) = '\n' :: code := rfl
  have hfeed : (dropPrefix? ['\n'] ('\n' :: code)).getD ('\n' :: code) = code := rfl
  rw [fencedExample?, dropPrefix?_append]
  simp only [hline, hdecoration, dropPrefix?_append, hword, hspace, hreturn, hfeed, hcut, Option.bind_eq_bind,
    Option.bind_some]
  rfl

/-- Behind the last line feed only blank characters and asterisks are left, which are taken off. -/
theorem dropRightWhile_decoratedLines (lines : List Text) :
    (decoratedLines lines ++ [' ', '*', ' ']).dropRightWhile (fun c => isSpaceOrTab c || c = '*') =
      decoratedLines lines := by
  have hlast : ∀ c, (decoratedLines lines).getLast? = some c → c = '\n' := by
    intro c hc
    obtain rfl | ⟨front, line, rfl⟩ := List.eq_nil_or_concat lines
    · cases hc
    · rw [List.concat_eq_append, decoratedLines_append, decoratedLines_cons, decoratedLines_nil,
        ← List.append_assoc, List.getLast?_concat] at hc
      exact (Option.some.inj hc).symm
  have hself : (decoratedLines lines).rdropWhile (fun c => isSpaceOrTab c || c = '*') =
      decoratedLines lines := by
    rw [List.rdropWhile_eq_self_iff]
    intro hne
    rw [hlast _ (List.getLast?_eq_some_getLast hne)]
    decide
  show (decoratedLines lines ++ [' ', '*', ' ']).rdropWhile (fun c => isSpaceOrTab c || c = '*') = _
  rw [← List.singleton_append, ← List.singleton_append (x := '*'), ← List.append_assoc, ← List.append_assoc,
    List.rdropWhile_concat_pos _ _ _ (by decide), List.rdropWhile_concat_pos _ _ _ (by decide),
    List.rdropWhile_concat_pos _ _ _ (by decide), hself]

/-- **An example is read back.** Behind the first `@example` tag of a script the lines between the fences come
back without blank characters at their ends; when nothing is left there is no example. -/
theorem example?_writtenExample (hbefore : ¬ "@example".toList <:+: before)
    (hlanguage : ∀ c ∈ language, (isWord c || c = '-') = true)
    (hlines : ∀ line ∈ lines, ¬ fence <:+: line ∧ ∀ c ∈ line, isLineBreak c = false) (after : Text) :
    example? (before ++ (writtenExample language lines ++ after)) =
      if strip (join ['\n'] lines) = [] then none else some (strip (join ['\n'] lines)) := by
  have hshape : before ++ (writtenExample language lines ++ after) =
      (before ++ [' ', '*', ' ']) ++ ("@example" ++ '\n' :: (decorate (fence ++ language) ++
        '\n' :: (decoratedLines lines ++ (decorate fence ++ after)))) := by
    simp [writtenExample, decorate]
  -- the tag stands neither in what is in front nor in the decoration of its own line
  have hnone : ∀ x y, before ++ [' ', '*', ' '] = x ++ y → y ≠ [] → fencedExample? (y ++
      ("@example" ++ '\n' :: (decorate (fence ++ language) ++
        '\n' :: (decoratedLines lines ++ (decorate fence ++ after))))) = none := by
    have hnot : ¬ "@example".toList <:+: before ++ [' ', '*', ' '] := by
      intro hin
      rcases infix_or_infix_of_not_mem (by decide) (by decide) hin with hin | hin
      · exact hbefore hin
      · exact absurd hin (by decide)
    intro x y hxy hy
    have hdrop := dropPrefix?_eq_none_iff.2 (not_prefix_of_last (d := ' ') (by simp) (by decide) hnot
      ("@example" ++ '\n' :: (decorate (fence ++ language) ++
        '\n' :: (decoratedLines lines ++ (decorate fence ++ after)))) x y hxy hy)
    rw [fencedExample?, hdrop]
    rfl
  have hhere := fencedExample?_tag hlanguage (fun line hline => (hlines line hline).1) after
  rw [hshape, example?, search_of_first_place hnone hhere]
  show (do
    let text := strip (undecorate ((decoratedLines lines ++ [' ', '*', ' ']).dropRightWhile
      fun c => isSpaceOrTab c || c = '*'))
    guard (!text.isEmpty)
    return text : Option Text) = _
  rw [dropRightWhile_decoratedLines, undecorate_decoratedLines fun line hline => (hlines line hline).2]
  cases strip (join ['\n'] lines) with
  | nil => rfl
  | cons c t => rfl

/-- Lines of code that start or end with asterisks, slashes, blanks and backquotes, and empty ones. -/
def awkwardCode : List Text := ["", "  * <X *", "/ \x60\x60 a */", "", "\t\x60 "]

theorem example?_awkwardCode :
    example? ("/**\n * X.\n" ++ (writtenExample "vue-sfc" awkwardCode ++ "\n */")) =
        some "* <X *\n/ \x60\x60 a */\n\n\t\x60".toList := by
  rw [example?_writtenExample (by decide) (by decide) (by decide)]
  decide

end ComponentBook.Script
