import ComponentBook.Proofs.Property.CommentedLines

/-! # Lines of members with comments

A line may hold several members, each with a semicolon behind it (**`MembersLine`**), and a documentation comment
may stand on lines of its own (`DocLines`) or on the line of its member (**`InlineDoc`**). A line that starts with
a comment is not read, and neither is a member with a comment in front of it on its line: **`membersOf_linesText`**
says what is read, and **`interfaceProperties_linesText`** that it is all that is written if and only if every
comment stands on lines of its own, apart from comments of which nothing is found. -/

namespace ComponentBook.InterfaceDeclaration

open Script Text ObjectDeclaration
open Script.DocComment (IsDocText written prose commentBefore? commentBefore?_eq_none)

variable {t : Text}

/-! ## The shape of a line -/

/-- A documentation comment on the line of its member. -/
structure InlineDoc where
  /-- Its text. -/
  text : Text
  /-- The blank characters behind it. -/
  gap : BlankLine
  unbroken : Unbroken text
  isDocText : IsDocText text

/-- A member among others on a line. -/
structure InlineMember where
  /-- The blank characters in front of it. -/
  indent : BlankLine
  /-- The comment in front of it. -/
  comment : Option InlineDoc
  /-- The member. -/
  signature : Signature
  no_remark : ¬ "//".toList <:+: signature.type

namespace InlineMember

/-- The comment, if there is one. -/
def commentText (m : InlineMember) : Text :=
  match m.comment with
  | none => []
  | some comment => written comment.text ++ comment.gap.1

/-- Its text without the blank characters in front of it. -/
def content (m : InlineMember) : Text := m.commentText ++ m.signature.text

/-- Its text. -/
def text (m : InlineMember) : Text := m.indent.1 ++ m.content

/-- The member that it declares. -/
def member (m : InlineMember) : Member := { m.signature with remark := [] }

end InlineMember

/-- A line of members. -/
structure MembersLine where
  /-- The first member. -/
  first : InlineMember
  /-- The other members. -/
  others : List InlineMember
  /-- The blank characters behind the last semicolon. -/
  behind : BlankLine

/-- Members with a semicolon behind each, and what stands behind the last one. -/
def membersText (members : List InlineMember) (behind : BlankLine) : Text :=
  join [';'] (members.map InlineMember.text ++ [behind.1])

/-- Its text. -/
def MembersLine.text (line : MembersLine) : Text := membersText (line.first :: line.others) line.behind

theorem membersText_cons (m : InlineMember) (members : List InlineMember) (behind : BlankLine) :
    membersText (m :: members) behind = m.text ++ ';' :: membersText members behind := by
  have hjoin := join_append [';'] (List.cons_ne_nil m.text [])
    (List.append_ne_nil_of_right_ne_nil (members.map InlineMember.text) (List.cons_ne_nil behind.1 []))
  rw [join_singleton, List.append_assoc] at hjoin
  exact hjoin

/-! ## The members of a line -/

namespace InlineMember

variable (m : InlineMember)

/-- A member does not start with a blank character or like a line comment. -/
theorem exists_content (t : Text) : ∃ c u, m.content ++ t = c :: u ∧ isBlank c = false ∧
    startsWith (c :: u) "//" = false := by
  rw [content, commentText]
  cases m.comment with
  | none =>
    obtain ⟨c, u, he, hc⟩ := m.signature.exists_text t
    exact ⟨c, u, he, not_blank_of_isIdentifierStart hc,
      Signature.not_startsWith_of_start hc (by decide) (by decide)⟩
  | some comment => exact ⟨'/', _, rfl, by decide, rfl⟩

theorem getLast?_content {c : Char} (h : m.content.getLast? = some c) : isBlank c = false := by
  have hne : m.signature.text ≠ [] := by
    obtain ⟨c, u, he, -⟩ := m.signature.exists_text []
    rw [List.append_nil] at he
    rw [he]
    exact List.cons_ne_nil c u
  rw [content, List.getLast?_append_of_ne_nil _ hne] at h
  exact m.signature.getLast?_text h

theorem stripLeft_text (t : Text) : stripLeft (m.text ++ t) = m.content ++ t := by
  obtain ⟨c, u, he, hc, -⟩ := m.exists_content t
  rw [text, List.append_assoc, stripLeft_append m.indent.2.1]
  rw [he]
  simpa using hc

theorem strip_text : strip m.text = m.content := by
  have hleft := m.stripLeft_text []
  rw [List.append_nil, List.append_nil] at hleft
  rw [strip, hleft]
  exact stripRight_eq_self fun _ => m.getLast?_content

theorem not_allBlank_text : m.text.allBlank = false :=
  not_blank_of_mem (c := ':') (by decide) (by simp [text, content, Signature.text, Signature.head])

theorem code_text : Code true (· == ';') m.text := by
  have hsignature : Code true (· == ';') m.signature.text := m.signature.code_text.mono (by simp) fun _ h => h
  apply code_blankLine_append
  rw [content, commentText]
  cases m.comment with
  | none => exact hsignature
  | some comment =>
    have hgap : Code true (· == ';') comment.gap.1 := by simpa using code_blankLine_append comment.gap .nil
    have hapart : Apart (written comment.text) comment.gap.1 := fun _ d hd =>
      not_slash_of_isBlank (allBlank_eq_true_iff.1 comment.gap.2.1 d (List.mem_of_head? hd))
    obtain ⟨c, u, he, hc⟩ := m.signature.exists_text []
    have hapart' : Apart (written comment.text ++ comment.gap.1) m.signature.text := by
      rw [← List.append_nil m.signature.text, he]
      refine apart_of_head ⟨?_, ?_⟩ <;> rintro rfl <;> exact absurd hc (by decide)
    exact ((comment.isDocText.code_written _).append hgap hapart).append hsignature hapart'

/-- A member with a comment in front of it on its line is not read. -/
theorem member?_content : member? m.content = if m.comment.isNone then some m.member else none := by
  rw [content, commentText]
  cases m.comment with
  | none =>
    have hread : member? (m.signature.text ++ []) = some m.member :=
      m.signature.member?_append (m.signature.isType.shortestType?_eq m.no_remark (by simp) rfl)
    rwa [List.append_nil] at hread
  | some comment => rfl

end InlineMember

/-! ## The entries on a line -/

/-- A part behind which no line comment stands is an entry. -/
theorem gatherMembers_cons (part : Segment) {parts : List Segment}
    (h : ∀ p ∈ parts, p.text.strip.startsWith "//" = false) : gatherMembers (part :: parts) =
      ⟨part.offset + (part.text.length - (stripLeft part.text).length), part.text.strip⟩ ::
        gatherMembers parts := by
  have htake : parts.takeWhile (fun p => p.text.strip.startsWith "//") = [] := by
    cases parts with
    | nil => rfl
    | cons p parts => exact List.takeWhile_cons_of_neg (Bool.eq_false_iff.1 (h p List.mem_cons_self))
  have hdrop : parts.dropWhile (fun p => p.text.strip.startsWith "//") = parts := by
    cases parts with
    | nil => rfl
    | cons p parts => exact List.dropWhile_cons_of_neg (Bool.eq_false_iff.1 (h p List.mem_cons_self))
  rw [gatherMembers]
  simp only [htake, hdrop, List.flatMap_nil, List.append_nil]

/-- The members that are read, with the comments that are found in front of them; `before` is the text in front
of the first one. -/
def readMembers (before : Text) : List InlineMember → List CommentedMember
  | [] => []
  | m :: members =>
    (commentedMember? (before ++ m.indent.1) m.content).toList ++
      readMembers (before ++ (m.text ++ [';'])) members

/-- The parts of a line that are not blank, from the given place on. -/
def filledParts (offset : Nat) (members : List InlineMember) (behind : BlankLine) : List Segment :=
  (placeParts offset (members.map InlineMember.text ++ [behind.1])).filter fun s => !s.text.allBlank

theorem filledParts_nil (offset : Nat) (behind : BlankLine) : filledParts offset [] behind = [] := by
  rw [filledParts, List.map_nil, List.nil_append, placeParts, placeParts, List.filter_cons_of_neg, List.filter_nil]
  simp [behind.2.1]

theorem filledParts_cons (offset : Nat) (m : InlineMember) (members : List InlineMember) (behind : BlankLine) :
    filledParts offset (m :: members) behind =
      ⟨offset, m.text⟩ :: filledParts (offset + m.text.length + 1) members behind := by
  rw [filledParts, List.map_cons, List.cons_append, placeParts, List.filter_cons_of_pos]
  · rfl
  · simp [m.not_allBlank_text]

theorem not_startsWith_of_mem_filledParts {offset : Nat} {members : List InlineMember} {behind : BlankLine}
    {part : Segment} (h : part ∈ filledParts offset members behind) :
    part.text.strip.startsWith "//" = false := by
  induction members generalizing offset with
  | nil =>
    rw [filledParts_nil] at h
    cases h
  | cons m members ih =>
    rw [filledParts_cons] at h
    rcases List.mem_cons.1 h with rfl | h
    · obtain ⟨c, u, he, -, hstart⟩ := m.exists_content []
      rw [List.append_nil] at he
      rw [m.strip_text, he, hstart]
    · exact ih h

/-- What is read of the members behind a place of the line. -/
theorem filterMap_filledParts (front done : Text) (members : List InlineMember) (behind : BlankLine) :
    ((gatherMembers (filledParts done.length members behind)).filterMap fun entry =>
      commentedMember? (front ++ (done ++ membersText members behind).take entry.offset) entry.text) =
        readMembers (front ++ done) members := by
  -- along the members; `done` is the line up to the part that is next
  induction members generalizing done with
  | nil =>
    rw [filledParts_nil, gatherMembers]
    rfl
  | cons m members ih =>
    have hlength : m.text.length - (stripLeft m.text).length = m.indent.1.length := by
      have hleft := m.stripLeft_text []
      rw [List.append_nil, List.append_nil] at hleft
      rw [hleft, InlineMember.text, List.length_append]
      omega
    have htake : (done ++ membersText (m :: members) behind).take (done.length + m.indent.1.length) =
        done ++ m.indent.1 := by
      rw [List.take_length_add_append, membersText_cons, InlineMember.text, List.append_assoc, List.take_left' rfl]
    have hplace : done.length + m.text.length + 1 = (done ++ (m.text ++ [';'])).length := by
      simp only [List.length_append, List.length_singleton]
      omega
    have hshape : done ++ membersText (m :: members) behind =
        done ++ (m.text ++ [';']) ++ membersText members behind := by
      rw [membersText_cons]
      simp
    have hlater := ih (done ++ (m.text ++ [';']))
    rw [← hshape, ← hplace] at hlater
    rw [filledParts_cons, gatherMembers_cons _ fun p hp => not_startsWith_of_mem_filledParts hp,
      List.filterMap_cons, hlater]
    simp only [hlength, htake, m.strip_text]
    rw [readMembers, List.append_assoc, List.append_assoc]
    cases commentedMember? (front ++ (done ++ m.indent.1)) m.content <;> rfl

/-- No comment ends with a semicolon. -/
theorem commentBefore?_semicolon (h : t.allBlank = true) (before : Text) :
    commentBefore? (before ++ [';'] ++ t) = none := by
  apply commentBefore?_eq_none
  rw [stripRight_append (by simp; decide) h]
  rintro ⟨x, hx⟩
  have hlast := congrArg List.getLast? hx
  rw [List.getLast?_append, List.getLast?_append] at hlast
  exact absurd (Option.some.inj hlast) (by decide)

theorem commentedMember?_content (before : Text) (m : InlineMember) : commentedMember? before m.content =
    if m.comment.isNone then some ⟨m.member, commentBefore? before⟩ else none := by
  rw [commentedMember?, m.member?_content]
  cases m.comment <;> rfl

/-- Behind a semicolon the members without a comment on the line are read. -/
theorem readMembers_semicolon (before : Text) (members : List InlineMember) :
    readMembers (before ++ [';']) members =
      (members.filter fun m => m.comment.isNone).map fun m => ⟨m.member, none⟩ := by
  induction members generalizing before with
  | nil => rfl
  | cons m members ih =>
    have hshape : before ++ [';'] ++ (m.text ++ [';']) = (before ++ [';'] ++ m.text) ++ [';'] := by simp
    rw [readMembers, commentedMember?_content, commentBefore?_semicolon m.indent.2.1, hshape, ih]
    -- a comment on the line is part of the entry, which then starts with no name
    cases hcomment : m.comment with
    | none => rw [List.filter_cons_of_pos (by simp [hcomment])]; rfl
    | some comment => rw [List.filter_cons_of_neg (by simp [hcomment])]; rfl

namespace MembersLine

variable (line : MembersLine)

/-- What the line is read as when it is read; `found` is what is found of a comment in front of it. -/
def read (found : Option Text) : List CommentedMember :=
  if line.first.comment.isNone then
    ⟨line.first.member, found⟩ ::
      (line.others.filter fun m => m.comment.isNone).map fun m => ⟨m.member, none⟩
  else []

theorem membersOn_text (front : Text) :
    membersOn front line.text = readMembers front (line.first :: line.others) := by
  have hparts : partsTopLevel (· == ';') 0 (lexemes line.text) =
      (line.first :: line.others).map InlineMember.text ++ [line.behind.1] := by
    refine partsTopLevel_join (k := true) isSeparator_semicolon (List.cons_ne_nil _ _) fun part hpart => ?_
    rcases List.mem_append.1 hpart with hpart | hpart
    · obtain ⟨m, -, rfl⟩ := List.mem_map.1 hpart
      exact m.code_text
    · obtain rfl := List.mem_singleton.1 hpart
      simpa using code_blankLine_append line.behind .nil
  have hread := filterMap_filledParts front [] (line.first :: line.others) line.behind
  rw [List.append_nil] at hread
  rw [membersOn, lineMembers, semicolonSegments, splitTopLevel, hparts]
  exact hread

/-! ## The state behind a line -/

theorem text_eq : line.text = line.first.indent.1 ++
    (line.first.content ++ ';' :: membersText line.others line.behind) := by
  rw [text, membersText_cons, InlineMember.text, List.append_assoc]

theorem code_line : Code true (fun _ => false) (line.text ++ ['\n']) := by
  have hline : Code true (fun _ => false) line.text := by
    refine code_join isSeparator_semicolon fun part hpart => ?_
    rcases List.mem_append.1 hpart with hpart | hpart
    · obtain ⟨m, -, rfl⟩ := List.mem_map.1 hpart
      exact m.code_text
    · obtain rfl := List.mem_singleton.1 hpart
      simpa using code_blankLine_append line.behind .nil
  exact hline.append (.of_inert (by decide)) (apart_of_head (by decide))

/-- A line whose first member has no comment on it starts like this member. -/
theorem strip_startsWith (h : line.first.comment = none) : (line.text ++ ['\n']).strip.startsWith "/*" = false ∧
    (line.text ++ ['\n']).strip.startsWith "*" = false := by
  have hshape : line.text ++ ['\n'] = line.first.indent.1 ++
      (line.first.signature.text ++ (';' :: membersText line.others line.behind ++ ['\n'])) := by
    rw [text_eq, InlineMember.content, InlineMember.commentText, h]
    simp
  rw [hshape]
  exact line.first.signature.strip_startsWith line.first.indent.2.1 _

/-- A line whose first member has a comment on it opens and closes this comment. -/
theorem strip_comment {comment : InlineDoc} (h : line.first.comment = some comment) :
    (line.text ++ ['\n']).strip.startsWith "/*" = true ∧
      contains (line.text ++ ['\n']).strip "*/" = true := by
  obtain ⟨u, hu⟩ : ∃ u, line.text = line.first.indent.1 ++
      '/' :: '*' :: ('*' :: comment.text ++ ['*', '/'] ++ u) := by
    refine ⟨comment.gap.1 ++ (line.first.signature.text ++ ';' :: membersText line.others line.behind), ?_⟩
    rw [text_eq, InlineMember.content, InlineMember.commentText, h]
    simp [written]
  rw [hu, contains_eq_true_iff]
  refine ⟨startsWith_opening _ _, ?_⟩
  -- its end is not taken off with the blank characters behind the line
  have hlast : ∀ d, ('*' :: comment.text ++ ['*', '/']).getLast? = some d → isBlank d = false := by
    intro d hd
    rw [List.getLast?_append] at hd
    obtain rfl : '/' = d := Option.some.inj hd
    decide
  rw [strip_opening, List.append_assoc ('*' :: comment.text ++ ['*', '/']), stripRight_append_eq hlast]
  exact ⟨'/' :: '*' :: '*' :: comment.text, stripRight (u ++ ['\n']), by simp⟩

/-- Nothing is open behind the line. -/
theorem next_line : ({} : LineState).next (line.text ++ ['\n']) = {} := by
  cases hcomment : line.first.comment with
  | none => exact next_of_code (line.strip_startsWith hcomment) line.code_line
  | some comment =>
    obtain ⟨hstart, hclosed⟩ := line.strip_comment hcomment
    rw [next_of_opening 0 hstart, hclosed]
    rfl

/-- What the line adds. -/
theorem members_line (front : Text) : ({} : LineState).members front line.text =
    line.read (commentBefore? (front ++ line.first.indent.1)) := by
  cases hcomment : line.first.comment with
  | none =>
    have hshape : front ++ (line.first.text ++ [';']) = front ++ line.first.text ++ [';'] := by simp
    rw [LineState.members, if_pos (atTop_of_start (line.strip_startsWith hcomment)), membersOn_text, readMembers,
      commentedMember?_content, hshape, readMembers_semicolon, read, hcomment]
    rfl
  | some comment =>
    rw [members_of_opening (line.strip_comment hcomment).1, read, hcomment]
    rfl

/-- No comment ends with the line. -/
theorem quiet_line (front : Text) : Quiet (front ++ (line.text ++ ['\n'])) := by
  intro blank hblank
  have hjoin := join_append [';'] (List.cons_ne_nil line.first.text (line.others.map InlineMember.text))
    (List.cons_ne_nil line.behind.1 [])
  obtain ⟨x, hx⟩ : ∃ x, line.text = x ++ [';'] ++ line.behind.1 := ⟨_, hjoin⟩
  have hshape : front ++ (line.text ++ ['\n']) ++ blank =
      front ++ x ++ [';'] ++ (line.behind.1 ++ ('\n' :: blank)) := by
    rw [hx]
    simp
  rw [hshape]
  apply commentBefore?_semicolon
  rw [allBlank_append, line.behind.2.1, allBlank_cons, hblank]
  decide

theorem isEmptyLine_text : isEmptyLine line.text = false :=
  isEmptyLine_of_mem (c := ';') (by simp [text_eq]) (by decide)

theorem unbroken_text : Unbroken line.text := by
  have hall (members : List InlineMember) : Unbroken (membersText members line.behind) := by
    induction members with
    | nil => exact line.behind.2.2
    | cons m members ih =>
      have hcomment : Unbroken m.commentText := by
        rw [InlineMember.commentText]
        cases m.comment with
        | none => exact nofun
        | some comment =>
          have hopening : Unbroken "/**" := by decide
          have hclosing : Unbroken "*/" := by decide
          exact (hopening.append (comment.unbroken.append hclosing)).append comment.gap.2.2
      have hsemicolon : Unbroken [';'] := by decide
      rw [membersText_cons]
      exact (m.indent.2.2.append (hcomment.append m.signature.unbroken_text)).append (hsemicolon.append ih)
  exact hall _

/-- The line as one that leaves nothing open. -/
def toTopLine : TopLine where
  text := line.text
  indent := line.first.indent
  read := line.read
  filled := line.isEmptyLine_text
  unbroken := line.unbroken_text
  members_text := line.members_line
  next_text := line.next_line
  quiet := line.quiet_line

end MembersLine

/-! ## Lines with comments in front of them -/

/-- A line of members with the comment in front of it and the blank lines behind it. -/
structure LineItem where
  /-- The comment on lines of its own. -/
  comment : Option DocLines
  /-- The line. -/
  line : MembersLine
  /-- The blank lines. -/
  behind : List BlankLine

namespace LineItem

variable (item : LineItem)

/-- Its lines. -/
def lines : List Text :=
  (item.comment.map DocLines.lines).getD [] ++ item.line.text :: item.behind.map Subtype.val

/-- What the item is read as. -/
def read : List CommentedMember := item.line.read (item.comment.map DocLines.found)

/-- What the item declares: the first member has the comment in front of it that is next to it. -/
def declared : List CommentedMember :=
  ⟨item.line.first.member, (item.line.first.comment.map InlineDoc.text).or (item.comment.map DocLines.text)⟩ ::
    item.line.others.map fun m => ⟨m.member, m.comment.map InlineDoc.text⟩

/-- The item as a line with a comment. -/
def toCommentedLine : CommentedLine where
  comment := item.comment
  line := item.line.toTopLine
  behind := item.behind

end LineItem

/-! ## The body -/

/-- A body: blank lines, lines of members, and what stands in front of the closing brace on its line. -/
structure LinesBody where
  /-- The blank lines in front of the members. -/
  leading : List BlankLine
  /-- The lines of members. -/
  items : List LineItem
  /-- The blank characters in front of the closing brace. -/
  last : BlankLine

/-- Its text. -/
def LinesBody.text (body : LinesBody) : Text :=
  laid (body.leading.map Subtype.val ++ body.items.flatMap LineItem.lines) ++ body.last.1

/-- **What is read of a body**: the members of the lines that do not start with a comment, but for those with a
comment in front of them on the line. -/
theorem membersOf_linesText (body : LinesBody) :
    membersOf body.text = body.items.flatMap LineItem.read := by
  have hlines : body.items.flatMap LineItem.lines =
      (body.items.map LineItem.toCommentedLine).flatMap CommentedLine.lines := by
    rw [List.flatMap_map]
    rfl
  rw [LinesBody.text, hlines, membersOf_commentedLines, List.flatMap_map]
  rfl

/-! ## What is read and what is written -/

/-- What a property says of its member, its default left aside. -/
def outline (p : Property) : Text × Text × Bool × Text := (p.name, p.type, p.required, p.description)

/-- What a member says of itself. -/
def CommentedMember.outline (m : CommentedMember) : Text × Text × Bool × Text :=
  (m.member.name, m.member.type, !m.member.optional, m.description)

/-- Without a line comment the description is the prose of the comment. -/
theorem InlineMember.outline_member (m : InlineMember) (comment : Option Text) :
    CommentedMember.outline ⟨m.member, comment⟩ =
      (m.signature.name, m.signature.type, !m.signature.optional, (comment.map prose).getD []) := by
  rw [CommentedMember.outline, CommentedMember.description]
  cases comment with
  | none => rfl
  | some c => cases h : prose c <;> simp [h, member]

/-- Lists of lists agree when none of the first ones is longer than its counterpart. -/
theorem flatMap_eq_flatMap_iff {α β : Type} {f g : α → List β} {l : List α}
    (h : ∀ a, (f a).length ≤ (g a).length) : l.flatMap f = l.flatMap g ↔ ∀ a ∈ l, f a = g a := by
  have hle (l : List α) : (l.flatMap f).length ≤ (l.flatMap g).length := by
    induction l with
    | nil => exact le_rfl
    | cons a l ih =>
      rw [List.flatMap_cons, List.flatMap_cons, List.length_append, List.length_append]
      exact Nat.add_le_add (h a) ih
  refine ⟨fun he => ?_, List.flatMap_congr⟩
  induction l with
  | nil => exact nofun
  | cons a l ih =>
    rw [List.flatMap_cons, List.flatMap_cons] at he
    have hlength := congrArg List.length he
    rw [List.length_append, List.length_append] at hlength
    -- the heads are of one length since the whole lists are
    have hhere := h a
    have hrest := hle l
    obtain ⟨ha, hl⟩ := List.append_inj he (by omega)
    exact List.forall_mem_cons.2 ⟨ha, ih hl⟩

namespace LineItem

variable (item : LineItem)

/-- No member has a comment on its line, and a comment in front of the line says nothing when its text ends in
the opening of a comment. -/
structure IsReadWhole : Prop where
  no_inline : ∀ m ∈ item.line.first :: item.line.others, m.comment = none
  found : ∀ comment, item.comment = some comment → "/*".toList <:+ comment.text → prose comment.text = []

theorem length_read : item.read.length ≤ item.declared.length := by
  rw [read, MembersLine.read, declared]
  split
  · simpa using List.length_filter_le _ _
  · exact Nat.zero_le _

/-- The comment in front of the line is read as it is written. -/
theorem prose_found_iff :
    ((item.comment.map DocLines.found).map prose).getD [] = ((item.comment.map DocLines.text).map prose).getD [] ↔
      ∀ comment, item.comment = some comment → "/*".toList <:+ comment.text → prose comment.text = [] := by
  cases item.comment with
  | none => exact ⟨fun _ => nofun, fun _ => rfl⟩
  | some comment =>
    simp only [Option.map_some, Option.getD_some, Option.some.injEq, forall_eq']
    rw [DocLines.found]
    have hnil : prose [] = [] := by decide
    by_cases hend : "/*".toList <:+ comment.text
    · rw [if_pos hend, hnil]
      exact ⟨fun he _ => he.symm, fun himp => (himp hend).symm⟩
    · rw [if_neg hend]
      exact ⟨fun _ hin => absurd hin hend, fun _ => rfl⟩

/-- The other members of a line are read as they are written when none of them has a comment on the line. -/
theorem outline_others_iff (members : List InlineMember) :
    ((members.filter fun m => m.comment.isNone).map fun m => (⟨m.member, none⟩ : CommentedMember)).map
        CommentedMember.outline =
      (members.map fun m => ⟨m.member, m.comment.map InlineDoc.text⟩).map CommentedMember.outline ↔
        ∀ m ∈ members, m.comment = none := by
  refine ⟨fun he m hm => ?_, fun hnone => ?_⟩
  · have hlength := congrArg List.length he
    simp only [List.length_map, List.length_filter_eq_length_iff] at hlength
    exact Option.isNone_iff_eq_none.1 (hlength m hm)
  · rw [List.filter_eq_self.2 fun m hm => Option.isNone_iff_eq_none.2 (hnone m hm)]
    refine congrArg _ (List.map_congr_left fun m hm => ?_)
    rw [hnone m hm]
    rfl

/-- A line is read as it is written. -/
theorem outline_read_iff : item.read.map CommentedMember.outline = item.declared.map CommentedMember.outline ↔
    item.IsReadWhole := by
  rw [read, MembersLine.read, declared]
  cases hcomment : item.line.first.comment with
  | none =>
    -- name, type and mark of the first member agree in any case, so that the prose is left
    rw [if_pos Option.isNone_none, List.map_cons, List.map_cons, List.cons.injEq, outline_others_iff,
      InlineMember.outline_member, InlineMember.outline_member]
    simp only [Prod.mk.injEq, true_and]
    rw [Option.map_none, Option.none_or, item.prose_found_iff]
    exact ⟨fun ⟨hfound, hothers⟩ => ⟨List.forall_mem_cons.2 ⟨hcomment, hothers⟩, hfound⟩,
      fun ⟨hinline, hfound⟩ => ⟨hfound, (List.forall_mem_cons.1 hinline).2⟩⟩
  | some comment =>
    refine ⟨fun he => ?_, fun hwhole => ?_⟩
    · cases he
    · have hnone := hwhole.no_inline _ List.mem_cons_self
      rw [hcomment] at hnone
      cases hnone

end LineItem

/-- **An interface of one-line members is read as it is written**, in order and each with its comment, if and only if
no comment stands on the line of its member and every comment whose text ends in the opening of a comment says
nothing. Otherwise the lines that start with a comment and the members behind one are left out. -/
theorem interfaceProperties_linesText {script : Text} {located : Located}
    (h : interfaceBlock? script = some located) (body : LinesBody) (hbody : located.body = body.text) :
    (interfaceProperties script).map outline = (body.items.flatMap LineItem.read).map CommentedMember.outline ∧
      ((interfaceProperties script).map outline =
          (body.items.flatMap LineItem.declared).map CommentedMember.outline ↔
        ∀ item ∈ body.items, item.IsReadWhole) := by
  have hread : (interfaceProperties script).map outline =
      (body.items.flatMap LineItem.read).map CommentedMember.outline := by
    rw [interfaceProperties, h]
    dsimp only
    rw [List.map_map, hbody, membersOf_linesText]
    rfl
  refine ⟨hread, ?_⟩
  rw [hread, List.map_flatMap, List.map_flatMap, flatMap_eq_flatMap_iff fun item => ?_]
  · exact forall₂_congr fun item _ => item.outline_read_iff
  · simpa using item.length_read

/-! ## Two scripts -/

/-- A member with a name of a type. -/
def namedMember (comment : Option InlineDoc) (name : Text) (optional : Bool) (type : Text) (hname : IsIdentifier name)
    (htype : type.all fun c => c ∉ ';' :: ',' :: specialChars && !isBlank c) (hne : type ≠ []) : InlineMember where
  indent := twoSpaces
  comment := comment
  signature := {
    isReadonly := false, name, optional, type, isName := hname
    isType := (isType_of_letters htype hne).isLineType }
  no_remark := (isType_of_letters htype hne).no_remark

/-- A comment above a line of two members. -/
def docBody : LinesBody where
  leading := [noIndent]
  items := [{
    comment := some {
      indent := twoSpaces, first := " Doc ", further := none
      first_unbroken := by decide, isDocText := ⟨⟨_, _, rfl, by decide⟩, by decide, by decide⟩ }
    line := {
      first := namedMember none "a" false "string" ⟨by decide, by decide⟩ (by decide) (by decide)
      others := [namedMember none "b" true "number" ⟨by decide, by decide⟩ (by decide) (by decide)]
      behind := noIndent }
    behind := [] }]
  last := noIndent

/-- An interface with this body. -/
def docInterface : Located where
  body := docBody.text
  before := []
  after := []

/-- A script with this interface. -/
def docScript : Text := "interface XProps \x7b" ++ docBody.text ++ "\x7d"

/-- Both members are read, the first one with the comment. -/
theorem outline_docScript : (interfaceProperties docScript).map outline =
    [⟨"a", "string", true, "Doc"⟩, ⟨"b", "number", false, ""⟩] := by
  have hblock : interfaceBlock? docScript = some docInterface := by decide +kernel
  have hwhole : ∀ item ∈ docBody.items, item.IsReadWhole := by
    refine List.forall_mem_singleton.2 ⟨by decide, ?_⟩
    rintro comment he hend
    obtain rfl := Option.some.inj he
    exact absurd hend (by decide)
  exact ((interfaceProperties_linesText hblock docBody rfl).2.2 hwhole).trans (by decide)

/-- A comment on the line of its member. -/
def inlineBody : LinesBody where
  leading := [noIndent]
  items := [{
    comment := none
    line := {
      first := namedMember (some {
          text := " Doc ", gap := twoSpaces, unbroken := by decide
          isDocText := ⟨⟨_, _, rfl, by decide⟩, by decide, by decide⟩ })
        "a" false "string" ⟨by decide, by decide⟩ (by decide) (by decide)
      others := []
      behind := noIndent }
    behind := [] }]
  last := noIndent

/-- A script with an interface of this body. -/
def inlineScript : Text := "interface XProps \x7b" ++ inlineBody.text ++ "\x7d"

/-- The member is left out. -/
theorem interfaceProperties_inlineScript :
    interfaceBlock? inlineScript = some { body := inlineBody.text, before := [], after := [] } ∧
      interfaceProperties inlineScript = [] ∧
        (inlineBody.items.flatMap LineItem.declared).map CommentedMember.outline =
          [⟨"a", "string", true, "Doc"⟩] :=
  ⟨by decide +kernel, by decide +kernel, by decide⟩

end ComponentBook.InterfaceDeclaration
