import ComponentBook.Proofs.Property.CommentedLines

/-! # The body of an interface as it is written

A body is written as members on lines of their own (**`WrittenItem`**): a member may have a documentation
comment on the lines in front of it (**`CommentLines`**) and blank lines behind it. Every member starts at the top
level and leaves nothing open, so that the lines are read one by one (`WrittenItem.toCommentedLine`).
**`membersOf_body`** puts this together: the members of the body are those that are written, each with what is
found of its comment. -/

namespace ComponentBook.InterfaceDeclaration

open Script Text ObjectDeclaration
open Script.DocComment (IsDocText written)

variable {t : Text} {ls : List Text}

/-! ## Comments on lines -/

/-- A documentation comment on lines of its own, without a tag. -/
structure CommentLines where
  /-- The blank characters in front of it. -/
  indent : BlankLine
  /-- Its first line, behind its opening. -/
  first : Text
  /-- Its other lines. -/
  further : Option FurtherLines
  first_unbroken : Unbroken first
  isDocText : IsDocText (linesText first further)
  no_tag : '@' ∉ linesText first further

namespace CommentLines

/-- Its text. -/
def text (comment : CommentLines) : Text := linesText comment.first comment.further

/-- Its lines. -/
def lines (comment : CommentLines) : List Text :=
  match comment.further with
  | none => [comment.indent.1 ++ '/' :: '*' :: '*' :: (comment.first ++ ['*', '/'])]
  | some further =>
    (comment.indent.1 ++ '/' :: '*' :: '*' :: comment.first) ::
      (further.middle ++ [further.closing ++ ['*', '/']])

/-- The comment with its tags, of which it has none. -/
def toDocLines (comment : CommentLines) : DocLines := { comment with }

theorem lines_toDocLines (comment : CommentLines) : comment.toDocLines.lines = comment.lines := by
  obtain ⟨indent, first, further, hfirst, hdoc, htag⟩ := comment
  cases further <;> simp [toDocLines, DocLines.lines, DocLines.block, BlockLines.lines, lines, noIndent]

theorem laid_lines (comment : CommentLines) :
    laid comment.lines = comment.indent.1 ++ (written comment.text ++ ['\n']) := by
  rw [← comment.lines_toDocLines, comment.toDocLines.laid_lines]
  rfl

end CommentLines

/-! ## Members with comments -/

/-- A member with the comment in front of it and the blank lines behind it. -/
structure WrittenItem where
  /-- The comment. -/
  comment : Option CommentLines
  /-- The member. -/
  member : WrittenMember
  /-- The blank lines. -/
  behind : List BlankLine

namespace WrittenItem

/-- The lines of the comment. -/
def commentLines (item : WrittenItem) : List Text := (item.comment.map CommentLines.lines).getD []

/-- Its lines. -/
def lines (item : WrittenItem) : List Text :=
  item.commentLines ++ item.member.line :: item.behind.map Subtype.val

/-- What is found of the comment: nothing when its text ends in the opening of a comment. -/
def found (item : WrittenItem) : Option Text :=
  item.comment.map fun comment => if "/*".toList <:+ comment.text then [] else comment.text

/-- What the item is read as. -/
def read (item : WrittenItem) : CommentedMember := ⟨item.member.member, item.found⟩

end WrittenItem

/-- No comment ends behind a member. -/
theorem quiet_line (m : WrittenMember) (front : Text) : Quiet (front ++ (m.line ++ ['\n'])) := by
  intro blank hblank
  rw [List.append_assoc, List.append_assoc]
  apply m.commentBefore?_line front
  rw [allBlank_append, hblank]
  decide

/-- The line of a member as one that leaves nothing open. -/
def WrittenMember.toTopLine (m : WrittenMember) : TopLine where
  text := m.line
  indent := m.indent
  read found := [⟨m.member, found⟩]
  filled := m.toMemberText.isEmptyLine_line
  unbroken := m.unbroken_line
  members_text front := by rw [LineState.members, if_pos m.atTop_line, m.membersOn_line]
  next_text := m.next_line
  quiet := quiet_line m

/-- The item as a line with a comment. -/
def WrittenItem.toCommentedLine (item : WrittenItem) : CommentedLine where
  comment := item.comment.map CommentLines.toDocLines
  line := item.member.toTopLine
  behind := item.behind

theorem WrittenItem.lines_toCommentedLine (item : WrittenItem) : item.toCommentedLine.lines = item.lines := by
  rw [CommentedLine.lines, CommentedLine.commentLines, lines, commentLines, toCommentedLine, Option.map_map]
  congr 2
  exact congrArg (fun f => item.comment.map f) (funext CommentLines.lines_toDocLines)

theorem WrittenItem.read_toCommentedLine (item : WrittenItem) : item.toCommentedLine.read = [item.read] := by
  rw [CommentedLine.read, toCommentedLine, Option.map_map]
  rfl

/-! ## The body -/

/-- A body: blank lines, members, and what stands in front of the closing brace on its line. -/
structure WrittenBody where
  /-- The blank lines in front of the members. -/
  leading : List BlankLine
  /-- The members. -/
  items : List WrittenItem
  /-- The blank characters in front of the closing brace. -/
  last : BlankLine

namespace WrittenBody

/-- Its lines, without the last one. -/
def lines (body : WrittenBody) : List Text :=
  body.leading.map Subtype.val ++ body.items.flatMap WrittenItem.lines

/-- Its text. -/
def text (body : WrittenBody) : Text := laid body.lines ++ body.last.1

end WrittenBody

/-- **The members of a body are those that are written**, in order, each with what is found of its
comment. -/
theorem membersOf_body (body : WrittenBody) :
    membersOf body.text = body.items.map WrittenItem.read := by
  have hlines : body.items.flatMap WrittenItem.lines =
      (body.items.map WrittenItem.toCommentedLine).flatMap CommentedLine.lines := by
    rw [List.flatMap_map]
    exact List.flatMap_congr fun item _ => item.lines_toCommentedLine.symm
  have hread : (body.items.map WrittenItem.toCommentedLine).flatMap CommentedLine.read =
      body.items.map WrittenItem.read := by
    rw [List.flatMap_map, List.flatMap_congr fun item _ => item.read_toCommentedLine]
    exact List.map_eq_flatMap.symm
  rw [WrittenBody.text, WrittenBody.lines, hlines, membersOf_commentedLines, hread]

/-! ## The body as code -/

/-- Lines are code when each is code with its line feed. -/
theorem code_laid (hls : ∀ l ∈ ls, Code true (fun _ => false) (l ++ ['\n']))
    (ht : Code true (fun _ => false) t) : Code true (fun _ => false) (laid ls ++ t) := by
  induction ls with
  | nil => exact ht
  | cons l ls ih =>
    have hrest := ih fun k hk => hls k (List.mem_cons_of_mem _ hk)
    have hshape : laid (l :: ls) ++ t = l ++ ['\n'] ++ (laid ls ++ t) := by simp
    rw [hshape]
    exact (hls l List.mem_cons_self).append hrest (apart_of_getLast? (by simp))

theorem code_blanks (blanks : List BlankLine) :
    ∀ l ∈ blanks.map Subtype.val, Code true (fun _ => false) (l ++ ['\n']) := by
  intro l hl
  obtain ⟨blank, -, rfl⟩ := List.mem_map.1 hl
  apply code_allBlank
  rw [allBlank_append, blank.2.1]
  decide

theorem WrittenItem.code_lines (item : WrittenItem) (ht : Code true (fun _ => false) t) :
    Code true (fun _ => false) (laid item.lines ++ t) := by
  have hmember : Code true (fun _ => false)
      (laid (item.member.line :: item.behind.map Subtype.val) ++ t) := by
    apply code_laid _ ht
    intro l hl
    rcases List.mem_cons.1 hl with rfl | hl
    · exact item.member.code_line
    · exact code_blanks item.behind l hl
  rw [lines, commentLines, laid_append, List.append_assoc]
  cases item.comment with
  | none => exact hmember
  | some comment =>
    have hindent := code_allBlank comment.indent.2.1
    have hwritten := (comment.isDocText.code_written fun _ => false).append
      (Code.of_inert (t := ['\n']) (by decide)) (apart_of_head (by decide))
    rw [Option.map_some, Option.getD_some, comment.laid_lines]
    refine (hindent.append hwritten (apart_of_inert fun c hc => ?_)).append hmember
      (apart_of_getLast? (by simp))
    exact not_mem_specialChars_of_isBlank (allBlank_eq_true_iff.1 comment.indent.2.1 c hc)

/-- The body is code. -/
theorem WrittenBody.code_text (body : WrittenBody) : Code true (fun _ => false) body.text := by
  have hitems : ∀ items : List WrittenItem,
      Code true (fun _ => false) (laid (items.flatMap WrittenItem.lines) ++ body.last.1) := by
    intro items
    induction items with
    | nil => exact code_allBlank body.last.2.1
    | cons item items ih =>
      rw [List.flatMap_cons, laid_append, List.append_assoc]
      exact item.code_lines ih
  rw [text, lines, laid_append, List.append_assoc]
  exact code_laid (code_blanks body.leading) (hitems body.items)

end ComponentBook.InterfaceDeclaration
