import ComponentBook.Proofs.Property.MemberLine

/-! # Block comments on lines of their own

A block comment on lines of its own (**`BlockLines`**) is opened by its first line and closed by its last one,
so that none of its lines declares anything and the braces that are open in front of it are open behind it
(**`membersFrom_blockLines`**). That takes lines that are not empty, since a new paragraph forgets that the
comment is open, and a last line that starts with an asterisk, since the braces of other lines count. -/

namespace ComponentBook.InterfaceDeclaration

open Script Text

variable {front line t u : Text} {ls rest : List Text} {state : LineState} {depth : Nat}

/-! ## The lines of a comment -/

/-- The lines of a comment behind its first one, the last of them apart: none is empty, and the last one is
blank or starts with an asterisk. -/
structure FurtherLines where
  /-- The lines in front of the last one. -/
  middle : List Text
  /-- The last line, up to the end of the comment. -/
  closing : Text
  middle_filled : ∀ line ∈ middle, Unbroken line ∧ isEmptyLine line = false
  closing_unbroken : Unbroken closing
  closing_star : ∀ c, (stripLeft closing).head? = some c → c = '*'

/-- The text of a comment with the given lines. -/
def linesText (first : Text) : Option FurtherLines → Text
  | none => first
  | some further => first ++ '\n' :: (laid further.middle ++ further.closing)

/-- A block comment on lines of its own. -/
structure BlockLines where
  /-- The blank characters in front of it. -/
  indent : BlankLine
  /-- Its first line, behind its opening. -/
  first : Text
  /-- Its other lines. -/
  further : Option FurtherLines
  /-- The blank characters behind it. -/
  behind : BlankLine
  first_unbroken : Unbroken first
  /-- It ends where it is closed first; the asterisk of its opening closes nothing. -/
  no_closing : ¬ "*/".toList <:+: '*' :: linesText first further

namespace BlockLines

variable (comment : BlockLines)

/-- Its text. -/
def text : Text := '/' :: '*' :: (linesText comment.first comment.further ++ ['*', '/'])

/-- Its lines. -/
def lines : List Text :=
  match comment.further with
  | none => [comment.indent.1 ++ '/' :: '*' :: (comment.first ++ ['*', '/'] ++ comment.behind.1)]
  | some further =>
    (comment.indent.1 ++ '/' :: '*' :: comment.first) ::
      (further.middle ++ [further.closing ++ ['*', '/'] ++ comment.behind.1])

/-- The lines are the comment, the blank characters around it and the line feed behind it. -/
theorem laid_lines :
    laid comment.lines = comment.indent.1 ++ (comment.text ++ (comment.behind.1 ++ ['\n'])) := by
  rw [lines, text]
  cases comment.further with
  | none => simp [linesText]
  | some further => simp [linesText, laid_append]

theorem unbroken_lines : ∀ l ∈ comment.lines, Unbroken l := by
  have hopening (u : Text) (hu : Unbroken u) : Unbroken (comment.indent.1 ++ '/' :: '*' :: u) := by
    have hfront : Unbroken ['/', '*'] := by decide
    exact comment.indent.2.2.append (hfront.append hu)
  have hend : Unbroken ['*', '/'] := by decide
  intro l hl
  rw [lines] at hl
  cases hfurther : comment.further with
  | none =>
    rw [hfurther] at hl
    obtain rfl := List.mem_singleton.1 hl
    exact hopening _ ((comment.first_unbroken.append hend).append comment.behind.2.2)
  | some further =>
    rw [hfurther] at hl
    rcases List.mem_cons.1 hl with rfl | hl
    · exact hopening _ comment.first_unbroken
    · rcases List.mem_append.1 hl with hl | hl
      · exact (further.middle_filled l hl).1
      · obtain rfl := List.mem_singleton.1 hl
        exact (further.closing_unbroken.append hend).append comment.behind.2.2

end BlockLines

/-! ## The state along a comment -/

theorem strip_opening (indent : BlankLine) (u : Text) :
    (indent.1 ++ '/' :: '*' :: u ++ ['\n']).strip = '/' :: '*' :: stripRight (u ++ ['\n']) := by
  have hshape : indent.1 ++ '/' :: '*' :: u ++ ['\n'] = indent.1 ++ (['/', '*'] ++ (u ++ ['\n'])) := by simp
  rw [hshape, strip, stripLeft_append indent.2.1 (by simp; decide), stripRight_append_eq (by simp; decide)]
  rfl

theorem startsWith_opening (indent : BlankLine) (u : Text) :
    (indent.1 ++ '/' :: '*' :: u ++ ['\n']).strip.startsWith "/*" = true := by
  rw [strip_opening, startsWith_eq_true_iff]
  exact ⟨stripRight (u ++ ['\n']), rfl⟩

/-- The state behind a line that opens a comment. -/
theorem next_of_opening (depth : Nat) (h : (line ++ ['\n']).strip.startsWith "/*" = true) :
    ({ depth } : LineState).next (line ++ ['\n']) =
      { depth, inComment := !contains (line ++ ['\n']).strip "*/" } := by
  simp only [LineState.next, LineState.commentAfter, h]
  simp

theorem members_of_opening (h : (line ++ ['\n']).strip.startsWith "/*" = true) (front : Text) :
    state.members front line = [] := by
  rw [LineState.members, LineState.atTop, h]
  simp

theorem members_in_comment (front line : Text) :
    ({ depth, inComment := true } : LineState).members front line = [] := by
  rw [LineState.members, LineState.atTop]
  simp

/-- A comment goes on behind a line in which it is not closed. -/
theorem next_in_comment (h : contains (line ++ ['\n']).strip "*/" = false) :
    ({ depth, inComment := true } : LineState).next (line ++ ['\n']) = { depth, inComment := true } := by
  simp only [LineState.next, LineState.commentAfter, h]
  simp

/-- The state behind a line that closes a comment. -/
theorem next_of_closing (h : contains (line ++ ['\n']).strip "*/" = true)
    (hstar : (line ++ ['\n']).strip.startsWith "*" = true) :
    ({ depth, inComment := true } : LineState).next (line ++ ['\n']) = { depth } := by
  simp only [LineState.next, LineState.commentAfter, h, hstar]
  simp

/-- A comment that is not closed in a line is not closed in what is left of it. -/
theorem not_contains_strip (h : ¬ "*/".toList <:+: t) : contains (t ++ ['\n']).strip "*/" = false := by
  rw [Bool.eq_false_iff, ne_eq, contains_eq_true_iff]
  intro hin
  have hin : '*' :: ['/'] <:+: t ++ ['\n'] := hin.trans (strip_isInfix _)
  rcases infix_or_infix_of_infix_append (by simp) hin with hin | hin
  · exact h hin
  · exact absurd hin (by decide)

/-! ## Reading along the lines -/

/-- The lines inside a comment declare nothing. -/
theorem membersAfter_in_comment (hfilled : ∀ l ∈ ls, isEmptyLine l = false)
    (hopen : ∀ l ∈ ls, ¬ "*/".toList <:+: l) (hline : isEmptyLine line = false) (front : Text)
    (rest : List Text) :
    membersAfter front { depth, inComment := true } (ls ++ line :: rest) =
      membersFrom (front ++ laid ls) { depth, inComment := true } (line :: rest) := by
  induction ls generalizing front with
  | nil =>
    rw [List.nil_append, membersAfter_cons hline, laid_nil, List.append_nil]
  | cons l ls ih =>
    have hl := not_contains_strip (hopen l List.mem_cons_self)
    have hrest := ih (fun k hk => hfilled k (List.mem_cons_of_mem _ hk))
      (fun k hk => hopen k (List.mem_cons_of_mem _ hk)) (front ++ (l ++ ['\n']))
    rw [List.cons_append, membersAfter_cons (hfilled l List.mem_cons_self), membersFrom_cons,
      members_in_comment, next_in_comment hl, List.nil_append, hrest]
    simp

namespace BlockLines

variable (comment : BlockLines)

theorem not_closing_first {further : FurtherLines} (h : comment.further = some further) :
    ¬ "*/".toList <:+: comment.indent.1 ++ '/' :: '*' :: comment.first := by
  intro hin
  have hshape : comment.indent.1 ++ '/' :: '*' :: comment.first =
      (comment.indent.1 ++ ['/']) ++ '*' :: comment.first := by simp
  have hindent : '*' ∉ comment.indent.1 ++ ['/'] := by
    intro hstar
    rcases List.mem_append.1 hstar with hstar | hstar
    · exact absurd (allBlank_eq_true_iff.1 comment.indent.2.1 '*' hstar) (by decide)
    · exact absurd hstar (by decide)
  rw [hshape] at hin
  have htext : '*' :: comment.first <+: '*' :: linesText comment.first comment.further := by
    rw [h]
    exact List.prefix_append ('*' :: comment.first) _
  exact comment.no_closing ((infix_of_infix_append hindent hin).trans htext.isInfix)

theorem not_closing_middle {further : FurtherLines} (h : comment.further = some further) :
    ∀ l ∈ further.middle, ¬ "*/".toList <:+: l := by
  intro l hl hin
  obtain ⟨before, after, hmiddle⟩ := List.append_of_mem hl
  apply comment.no_closing
  rw [h, linesText, hmiddle, laid_append, laid_cons]
  exact hin.trans ⟨'*' :: (comment.first ++ '\n' :: laid before),
    '\n' :: (laid after ++ further.closing), by simp⟩

theorem strip_closing (further : FurtherLines) :
    (further.closing ++ ['*', '/'] ++ comment.behind.1 ++ ['\n']).strip =
      stripLeft further.closing ++ ['*', '/'] := by
  have hshape : further.closing ++ ['*', '/'] ++ comment.behind.1 ++ ['\n'] =
      further.closing ++ (['*', '/'] ++ (comment.behind.1 ++ ['\n'])) := by simp
  have hblank : allBlank (comment.behind.1 ++ ['\n']) = true := by
    rw [allBlank_append, comment.behind.2.1]
    decide
  rw [hshape, strip, stripLeft_append_eq _ (by simp; decide), ← List.append_assoc,
    stripRight_append (by simp; decide) hblank]

/-- The last line of a comment closes it and starts with an asterisk. -/
theorem closes (further : FurtherLines) :
    contains (further.closing ++ ['*', '/'] ++ comment.behind.1 ++ ['\n']).strip "*/" = true ∧
      (further.closing ++ ['*', '/'] ++ comment.behind.1 ++ ['\n']).strip.startsWith "*" = true := by
  rw [strip_closing, contains_eq_true_iff, startsWith_eq_true_iff]
  refine ⟨(List.suffix_append _ _).isInfix, ?_⟩
  cases hclosing : stripLeft further.closing with
  | nil => decide
  | cons c t =>
    obtain rfl : c = '*' := further.closing_star c (by rw [hclosing]; rfl)
    exact ⟨t ++ ['*', '/'], by simp⟩

/-- The only line of a comment opens and closes it. -/
theorem contains_only : contains
    (comment.indent.1 ++ '/' :: '*' :: (comment.first ++ ['*', '/'] ++ comment.behind.1) ++ ['\n']).strip
      "*/" = true := by
  have hblank : allBlank (comment.behind.1 ++ ['\n']) = true := by
    rw [allBlank_append, comment.behind.2.1]
    decide
  have hstrip : stripRight (comment.first ++ ['*', '/'] ++ comment.behind.1 ++ ['\n']) =
      comment.first ++ ['*', '/'] := by
    rw [List.append_assoc (comment.first ++ ['*', '/'])]
    exact stripRight_append (by simp; decide) hblank
  rw [strip_opening, hstrip, contains_eq_true_iff]
  exact (List.suffix_append ('/' :: '*' :: comment.first) _).isInfix

end BlockLines

/-- **A comment is read over**: it declares nothing, and behind it the braces are open that were open in front
of it. -/
theorem membersFrom_blockLines (comment : BlockLines) (front : Text) (rest : List Text) :
    membersFrom front { depth } (comment.lines ++ rest) =
      membersAfter (front ++ laid comment.lines) { depth } rest := by
  rw [BlockLines.lines]
  cases hfurther : comment.further with
  | none =>
    -- the only line opens and closes the comment
    have hstarts := startsWith_opening comment.indent (comment.first ++ ['*', '/'] ++ comment.behind.1)
    have hnext := next_of_opening depth hstarts
    rw [comment.contains_only] at hnext
    rw [List.singleton_append, membersFrom_cons, members_of_opening hstarts, List.nil_append, hnext]
    simp
  | some further =>
    -- the first line leaves the comment open, the lines inside keep it open, the last one closes it
    have hstarts := startsWith_opening comment.indent comment.first
    have hopen := not_contains_strip (comment.not_closing_first hfurther)
    have hnext := next_of_opening depth hstarts
    rw [hopen] at hnext
    have hfilled : isEmptyLine (further.closing ++ ['*', '/'] ++ comment.behind.1) = false :=
      isEmptyLine_of_mem (c := '*') (by simp) (by decide)
    obtain ⟨hcloses, hstar⟩ := comment.closes further
    rw [List.cons_append, List.append_assoc, List.singleton_append, membersFrom_cons,
      members_of_opening hstarts, List.nil_append, hnext, Bool.not_false,
      membersAfter_in_comment (fun l hl => (further.middle_filled l hl).2)
        (comment.not_closing_middle hfurther) hfilled,
      membersFrom_cons, members_in_comment, List.nil_append, next_of_closing hcloses hstar]
    simp [laid_append]

/-- The first line of a comment is not empty. -/
theorem BlockLines.exists_lines (comment : BlockLines) :
    ∃ line ls, comment.lines = line :: ls ∧ isEmptyLine line = false := by
  have hfilled (t : Text) : isEmptyLine (comment.indent.1 ++ '/' :: t) = false :=
    isEmptyLine_of_mem (c := '/') (by simp) (by decide)
  rw [lines]
  cases comment.further with
  | none => exact ⟨_, _, rfl, hfilled _⟩
  | some further => exact ⟨_, _, rfl, hfilled _⟩

end ComponentBook.InterfaceDeclaration
