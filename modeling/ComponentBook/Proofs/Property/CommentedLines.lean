import ComponentBook.Proofs.Property.BlockLines

/-! # Lines with comments in front of them

A documentation comment on lines of its own (**`DocLines`**) is read over and is found in front of the line behind
it, if no comment ends in front of it (`Quiet`). So a line that leaves nothing open declares its members with
what is found of that comment, whatever stands in front (`Declare`, **`Declare.commentedLine`**). -/

namespace ComponentBook.InterfaceDeclaration

open Script Text
open Script.DocComment (IsDocText written commentBefore? commentBefore?_eq_none)

variable {front line t : Text} {ls : List Text} {ms : List CommentedMember}

/-! ## Comments on lines -/

/-- A documentation comment on lines of its own. -/
structure DocLines where
  /-- The blank characters in front of it. -/
  indent : BlankLine
  /-- Its first line, behind its opening. -/
  first : Text
  /-- Its other lines. -/
  further : Option FurtherLines
  first_unbroken : Unbroken first
  isDocText : IsDocText (linesText first further)

namespace DocLines

variable (comment : DocLines)

/-- Its text. -/
def text : Text := linesText comment.first comment.further

/-- What is found of it: nothing when its text ends in the opening of a comment. -/
def found : Text := if "/*".toList <:+ comment.text then [] else comment.text

theorem linesText_star : linesText ('*' :: comment.first) comment.further = '*' :: comment.text := by
  rw [text]
  cases comment.further <;> rfl

/-- The comment as a block comment: its text starts with an asterisk. -/
def block : BlockLines where
  indent := comment.indent
  first := '*' :: comment.first
  further := comment.further
  behind := noIndent
  first_unbroken := List.forall_mem_cons.2 ⟨by decide, comment.first_unbroken⟩
  no_closing := by
    rw [comment.linesText_star]
    intro hin
    rcases List.infix_cons_iff.1 hin with hprefix | hin
    · exact absurd (List.cons_prefix_cons.1 (List.cons_prefix_cons.1 hprefix).2).1 (by decide)
    · exact comment.isDocText.not_closing_infix hin

/-- Its lines. -/
def lines : List Text := comment.block.lines

/-- The lines are the comment and the line feed behind it. -/
theorem laid_lines : laid comment.lines = comment.indent.1 ++ (written comment.text ++ ['\n']) := by
  rw [lines, comment.block.laid_lines, BlockLines.text]
  show comment.indent.1 ++ ('/' :: '*' :: (linesText ('*' :: comment.first) comment.further ++ ['*', '/']) ++
    ([] ++ ['\n'])) = _
  rw [comment.linesText_star]
  rfl

theorem unbroken_lines : ∀ l ∈ comment.lines, Unbroken l := comment.block.unbroken_lines

/-- A comment is read over: it declares nothing, and nothing is open behind it. -/
theorem membersFrom_append (hline : isEmptyLine line = false) (front : Text) (rest : List Text) :
    membersFrom front {} (comment.lines ++ line :: rest) =
      membersFrom (front ++ laid comment.lines) {} (line :: rest) := by
  rw [lines, membersFrom_blockLines, membersAfter_cons hline]

/-- The comment is found in front of what stands behind its lines. -/
theorem commentBefore?_laid (h : t.allBlank = true) (front : Text) :
    commentBefore? (front ++ laid comment.lines ++ t) = some comment.found := by
  have hblank : allBlank ('\n' :: t) = true := by
    rw [allBlank_cons, h]
    decide
  have hshape : front ++ (comment.indent.1 ++ (written comment.text ++ ['\n'])) ++ t =
      front ++ comment.indent.1 ++ (written comment.text ++ '\n' :: t) := by simp
  rw [comment.laid_lines, hshape]
  exact comment.isDocText.commentBefore?_written (front ++ comment.indent.1) hblank

end DocLines

/-! ## What lines declare -/

/-- No comment ends with the text, blank characters behind it left aside. -/
def Quiet (front : Text) : Prop :=
  ∀ blank : Text, blank.allBlank = true → commentBefore? (front ++ blank) = none

theorem quiet_nil : Quiet [] := by
  intro blank hblank
  apply commentBefore?_eq_none
  rw [stripRight_append (t := []) (by simp) hblank]
  decide

theorem Quiet.blank (h : Quiet front) (ht : t.allBlank = true) : Quiet (front ++ t) := by
  intro blank hblank
  rw [List.append_assoc]
  exact h _ (by rw [allBlank_append, ht, hblank, Bool.and_self])

/-- The lines declare the members `ms`, whatever stands in front of them, as long as no comment ends
there. -/
def Declare (ls : List Text) (ms : List CommentedMember) : Prop :=
  ∀ front, Quiet front → membersFrom front {} ls = ms ∧ membersAfter front {} ls = ms

theorem declare_nil : Declare [] [] := by
  intro front _
  exact ⟨rfl, rfl⟩

theorem code_allBlank (h : t.allBlank = true) : Code true (fun _ => false) t :=
  .of_allBlank (fun _ _ => rfl) h

/-- Nothing is open behind a blank line when nothing is open in front of it. -/
theorem next_of_allBlank (h : line.allBlank = true) : ({} : LineState).next (line ++ ['\n']) = {} := by
  have hblank : (line ++ ['\n']).allBlank = true := by
    rw [allBlank_append, h]
    decide
  have hdelta : braceDelta (line ++ ['\n']) = 0 := (code_allBlank hblank).braceDelta
  rw [LineState.next, LineState.commentAfter, strip_eq_nil_iff.2 hblank, hdelta]
  decide

/-- A blank line declares nothing. -/
theorem Declare.blank (h : Declare ls ms) (blank : BlankLine) : Declare (blank.1 :: ls) ms := by
  have hfrom : ∀ front, Quiet front → membersFrom front {} (blank.1 :: ls) = ms := by
    intro front hfront
    have hnone : ({} : LineState).members front blank.1 = [] := members_of_allBlank blank.2.1 front {}
    have hquiet : Quiet (front ++ (blank.1 ++ ['\n'])) := by
      rw [← List.append_assoc]
      exact (hfront.blank blank.2.1).blank (by decide)
    rw [membersFrom_cons, hnone, List.nil_append, next_of_allBlank blank.2.1]
    exact (h _ hquiet).2
  intro front hfront
  refine ⟨hfrom front hfront, ?_⟩
  -- behind an empty line the paragraph starts anew, where no comment ends either
  rw [membersAfter]
  split
  · exact (h [] quiet_nil).1
  · exact hfrom front hfront

theorem Declare.blanks (h : Declare ls ms) (blanks : List BlankLine) :
    Declare (blanks.map Subtype.val ++ ls) ms := by
  induction blanks with
  | nil => exact h
  | cons blank blanks ih => exact ih.blank blank

theorem unbroken_blanks (blanks : List BlankLine) : ∀ l ∈ blanks.map Subtype.val, Unbroken l := by
  intro l hl
  obtain ⟨blank, -, rfl⟩ := List.mem_map.1 hl
  exact blank.2.2

/-! ## Lines that leave nothing open -/

/-- A line that leaves nothing open behind it, neither a brace nor a comment. -/
structure TopLine where
  /-- Its text. -/
  text : Text
  /-- The blank characters in front of its first member. -/
  indent : BlankLine
  /-- What it is read as, by what is found of a comment in front of it. -/
  read : Option Text → List CommentedMember
  filled : isEmptyLine text = false
  unbroken : Unbroken text
  members_text : ∀ front, ({} : LineState).members front text = read (commentBefore? (front ++ indent.1))
  next_text : ({} : LineState).next (text ++ ['\n']) = {}
  quiet : ∀ front, Quiet (front ++ (text ++ ['\n']))

/-- Such a line with the comment in front of it and the blank lines behind it. -/
structure CommentedLine where
  /-- The comment. -/
  comment : Option DocLines
  /-- The line. -/
  line : TopLine
  /-- The blank lines. -/
  behind : List BlankLine

namespace CommentedLine

variable (item : CommentedLine)

/-- The lines of the comment. -/
def commentLines : List Text := (item.comment.map DocLines.lines).getD []

/-- Its lines. -/
def lines : List Text := item.commentLines ++ item.line.text :: item.behind.map Subtype.val

/-- What it is read as. -/
def read : List CommentedMember := item.line.read (item.comment.map DocLines.found)

/-- The first line is not empty. -/
theorem exists_first (ls : List Text) :
    ∃ line rest, item.lines ++ ls = line :: rest ∧ isEmptyLine line = false := by
  rw [lines, commentLines]
  cases item.comment with
  | none => exact ⟨item.line.text, _, rfl, item.line.filled⟩
  | some comment =>
    obtain ⟨line, ls', hlines, hline⟩ := comment.block.exists_lines
    have he : comment.lines ++ item.line.text :: item.behind.map Subtype.val ++ ls =
        line :: (ls' ++ item.line.text :: item.behind.map Subtype.val ++ ls) := by
      rw [DocLines.lines, hlines, List.cons_append, List.cons_append]
    exact ⟨line, _, he, hline⟩

theorem unbroken_lines : ∀ l ∈ item.lines, Unbroken l := by
  refine List.forall_mem_append.2 ⟨fun l hl => ?_,
    List.forall_mem_cons.2 ⟨item.line.unbroken, unbroken_blanks item.behind⟩⟩
  rw [commentLines] at hl
  cases hcomment : item.comment with
  | none =>
    rw [hcomment] at hl
    cases hl
  | some comment =>
    rw [hcomment] at hl
    exact comment.unbroken_lines l hl

/-- The comment is found in front of the line. -/
theorem commentBefore?_line (h : Quiet front) :
    commentBefore? (front ++ laid item.commentLines ++ item.line.indent.1) = item.comment.map DocLines.found := by
  rw [commentLines]
  cases item.comment with
  | none =>
    rw [Option.map_none, Option.getD_none, laid_nil, List.append_nil]
    exact h _ item.line.indent.2.1
  | some comment => exact comment.commentBefore?_laid item.line.indent.2.1 front

end CommentedLine

/-- **A line declares its members**, with what is found of the comment in front of it. -/
theorem Declare.commentedLine (h : Declare ls ms) (item : CommentedLine) :
    Declare (item.lines ++ ls) (item.read ++ ms) := by
  intro front hfront
  have hfrom : membersFrom front {} (item.lines ++ ls) = item.read ++ ms := by
    -- the comment is read over, the line is read, and behind it no comment ends
    have hcomment : membersFrom front {} (item.lines ++ ls) =
        membersFrom (front ++ laid item.commentLines) {}
          (item.line.text :: (item.behind.map Subtype.val ++ ls)) := by
      rw [CommentedLine.lines, CommentedLine.commentLines, List.append_assoc, List.cons_append]
      cases item.comment with
      | none => simp
      | some comment => exact comment.membersFrom_append item.line.filled front _
    rw [hcomment, membersFrom_cons, item.line.members_text, item.commentBefore?_line hfront,
      item.line.next_text, ((h.blanks item.behind) _ (item.line.quiet _)).2]
    rfl
  obtain ⟨line, rest, he, hline⟩ := item.exists_first ls
  refine ⟨hfrom, ?_⟩
  rw [he] at hfrom ⊢
  rw [membersAfter_cons hline, hfrom]

theorem declare_commentedLines (items : List CommentedLine) :
    Declare (items.flatMap CommentedLine.lines) (items.flatMap CommentedLine.read) := by
  induction items with
  | nil => exact declare_nil
  | cons item items ih => exact ih.commentedLine item

/-- **The members of a body** of such lines are those that the lines are read as, in order. -/
theorem membersOf_commentedLines (leading : List BlankLine) (items : List CommentedLine) (last : BlankLine) :
    membersOf (laid (leading.map Subtype.val ++ items.flatMap CommentedLine.lines) ++ last.1) =
      items.flatMap CommentedLine.read := by
  have hlines : ∀ l ∈ leading.map Subtype.val ++ items.flatMap CommentedLine.lines, Unbroken l := by
    refine List.forall_mem_append.2 ⟨unbroken_blanks leading, fun l hl => ?_⟩
    obtain ⟨item, -, hl⟩ := List.mem_flatMap.1 hl
    exact item.unbroken_lines l hl
  rw [membersOf_laid hlines last.2.2 last.2.1]
  exact (((declare_commentedLines items).blanks leading) [] quiet_nil).1

end ComponentBook.InterfaceDeclaration
