import ComponentBook.Proofs.Property.MemberText

/-! # A member of an interface as it is written

A member whose type and whose line comment are kept whole (**`WrittenMember`**): no two slashes stand in its
type, and no comment ends in its line comment. It is read as it is written (**`membersOn_line`**), and no
comment ends with its line (**`commentBefore?_line`**). -/

namespace ComponentBook.InterfaceDeclaration

open Script Text ObjectDeclaration
open Script.DocComment (commentBefore? commentBefore?_eq_none)

variable {a b t : Text}

/-! ## The shape of a member -/

/-- A type as it stands behind the name of a member: its semicolons stand in brackets and string literals,
and no line comment starts in it. -/
structure IsType (t : Text) : Prop where
  code : Code false (· == ';') t
  ne_nil : t ≠ []
  trimmed : t.strip = t
  unbroken : Unbroken t
  no_remark : ¬ "//".toList <:+: t
  no_separator : ∀ c, t.getLast? = some c → c ≠ ';' ∧ c ≠ ','
  no_closing : ¬ "*/".toList <:+ t

theorem IsType.isLineType (h : IsType t) : IsLineType t := { h with }

/-- A name of a type. -/
theorem isType_of_letters (h : t.all fun c => c ∉ ';' :: ',' :: specialChars && !isBlank c)
    (hne : t ≠ []) : IsType t := by
  have hall : ∀ c ∈ t, c ∉ ';' :: ',' :: specialChars ∧ isBlank c = false := by
    intro c hc
    simpa using List.all_eq_true.1 h c hc
  have hslash : '/' ∉ t := fun hin => (hall '/' hin).1 (by decide)
  refine ⟨.of_inert fun c hc => ?_, hne, ?_, fun c hc => ?_, fun hin => ?_, fun c hc => ?_, fun hin => ?_⟩
  · have hno := (hall c hc).1
    rw [List.mem_cons, List.mem_cons, not_or, not_or] at hno
    exact ⟨hno.2.2, beq_eq_false_iff_ne.2 hno.1⟩
  · exact strip_eq_self (fun c hc => (hall c (List.mem_of_head? hc)).2)
      fun c hc => (hall c (List.mem_of_getLast? hc)).2
  · rw [Bool.eq_false_iff]
    intro hbreak
    have hblank := (hall c hc).2
    rw [isBlank_of_isLineBreak hbreak] at hblank
    cases hblank
  · exact hslash (hin.subset List.mem_cons_self)
  · have hno := (hall c (List.mem_of_getLast? hc)).1
    rw [List.mem_cons, List.mem_cons, not_or, not_or] at hno
    exact ⟨hno.1, hno.2.1⟩
  · exact hslash (hin.subset (by decide))

/-- A member on a line of its own. -/
structure WrittenMember where
  /-- The blank characters in front of it. -/
  indent : BlankLine
  /-- Whether `readonly` stands in front of its name. -/
  isReadonly : Bool
  /-- Its name. -/
  name : Text
  /-- Whether a question mark stands behind its name. -/
  optional : Bool
  /-- Its type. -/
  type : Text
  /-- Whether a semicolon stands behind its type. -/
  semicolon : Bool
  /-- The text of the line comment behind it. -/
  remark : Option Text
  isName : IsIdentifier name
  isType : IsType type
  isRemark : ∀ c, remark = some c → Unbroken c ∧ ¬ "*/".toList <:+: c

namespace WrittenMember

/-- The name with what stands around it, up to the colon. -/
def head (m : WrittenMember) : Text :=
  textIf m.isReadonly "readonly " ++ (m.name ++ (textIf m.optional ['?'] ++ [':']))

/-- The member without its semicolon and its comment. -/
def signature (m : WrittenMember) : Text := m.head ++ ' ' :: m.type

/-- The line comment, if there is one. -/
def remarkText (m : WrittenMember) : Text :=
  match m.remark with
  | none => []
  | some c => ' ' :: '/' :: '/' :: ' ' :: c

/-- What stands behind the type. -/
def ending (m : WrittenMember) : Text := textIf m.semicolon [';'] ++ m.remarkText

/-- Its line. -/
def line (m : WrittenMember) : Text := m.indent.1 ++ (m.signature ++ m.ending)

/-- The member that it declares. -/
def member (m : WrittenMember) : Member where
  name := m.name
  optional := m.optional
  type := m.type
  remark := (m.remark.map strip).getD []

/-- The member with its line, which is the same text. -/
def toMemberText (m : WrittenMember) : MemberText where
  indent := m.indent
  signature := { m with isType := m.isType.isLineType }
  semicolon := m.semicolon
  remark := m.remark
  unbroken_remark c hc := (m.isRemark c hc).1

variable (m : WrittenMember)

/-! ## The line -/

/-- The line with its line feed is code. -/
theorem code_line : Code true (fun _ => false) (m.line ++ ['\n']) := m.toMemberText.code_line

/-- The line is one line. -/
theorem unbroken_line : Unbroken m.line := m.toMemberText.unbroken_line

/-- The line starts at the top level when nothing is open in front of it. -/
theorem atTop_line : ({} : LineState).atTop (m.line ++ ['\n']) = true := m.toMemberText.atTop_line

/-- Nothing is open behind the line when nothing is open in front of it. -/
theorem next_line : ({} : LineState).next (m.line ++ ['\n']) = {} := m.toMemberText.next_line

/-- The line declares its member, with the comment that stands in front of it. -/
theorem membersOn_line (front : Text) : membersOn front m.line =
    [⟨m.member, commentBefore? (front ++ m.indent.1)⟩] :=
  m.toMemberText.membersOn_line (m.toMemberText.member?_entry m.isType.no_remark) front

/-! ## No comment ends with the line -/

omit m in
/-- The end of a comment does not stand at the end of a line comment. -/
theorem not_closing_suffix_remark {c : Text} (hc : ¬ "*/".toList <:+: c) (hblank : b.allBlank = true)
    (front : Text) : ¬ "*/".toList <:+ (front ++ ('/' :: '/' :: ' ' :: (c ++ b))).stripRight := by
  have hshape : front ++ '/' :: '/' :: ' ' :: (c ++ b) = (front ++ ['/', '/']) ++ (' ' :: c ++ b) := by simp
  have hstrip : stripRight (front ++ '/' :: '/' :: ' ' :: (c ++ b)) =
      front ++ (['/', '/'] ++ stripRight (' ' :: c ++ b)) := by
    rw [hshape, stripRight_append_eq, List.append_assoc]
    intro d hd
    rw [List.getLast?_append] at hd
    obtain rfl : '/' = d := Option.some.inj hd
    decide
  rw [hstrip]
  intro hend
  have hin : '*' :: ['/'] <:+: ['/', '/'] ++ stripRight (' ' :: c ++ b) :=
    (List.suffix_of_suffix_length_le hend (List.suffix_append front _) (by simp)).isInfix
  have hrest : '*' :: ['/'] <:+: ' ' :: c ++ b :=
    (infix_of_infix_append (by decide) hin).trans (List.rdropWhile_prefix _ _).isInfix
  have hstop : ∀ d, b.head? = some d → d ∉ ['/'] := by
    intro d hd
    simpa using (not_slash_of_isBlank (allBlank_eq_true_iff.1 hblank d (List.mem_of_head? hd))).1
  -- the end of a comment would stand in the comment itself, or its star among the blanks behind
  rcases infix_or_infix_of_infix_append hstop hrest with hin | hin
  · exact hc (infix_of_infix_append (s := [' ']) (by decide) hin)
  · have hstar := allBlank_eq_true_iff.1 hblank '*' (hin.subset List.mem_cons_self)
    exact absurd hstar (by decide)

/-- The end of a comment does not stand at the end of the line. -/
theorem not_closing_suffix (front : Text) (hblank : b.allBlank = true) :
    ¬ "*/".toList <:+ (front ++ (m.line ++ b)).stripRight := by
  -- the line ends with its comment, with the semicolon or with the type
  cases hremark : m.remark with
  | some c =>
    have hline : front ++ (m.line ++ b) = (front ++ (m.indent.1 ++ (m.signature ++
        (textIf m.semicolon [';'] ++ [' '])))) ++ ('/' :: '/' :: ' ' :: (c ++ b)) := by
      simp [line, ending, remarkText, hremark]
    rw [hline]
    exact not_closing_suffix_remark (m.isRemark c hremark).2 hblank _
  | none =>
    cases hsemicolon : m.semicolon with
    | true =>
      have hline : front ++ (m.line ++ b) = (front ++ (m.indent.1 ++ m.signature)) ++ [';'] ++ b := by
        simp [line, ending, remarkText, hremark, hsemicolon, textIf]
      rw [hline, stripRight_append (by simp; decide) hblank]
      rintro ⟨x, hx⟩
      have hlast := congrArg List.getLast? hx
      rw [List.getLast?_append, List.getLast?_append] at hlast
      exact absurd (Option.some.inj hlast) (by decide)
    | false =>
      have hline : front ++ (m.line ++ b) = (front ++ (m.indent.1 ++ m.head)) ++ (' ' :: m.type) ++ b := by
        simp [line, signature, ending, remarkText, hremark, hsemicolon, textIf]
      have hlast : ∀ c, ((front ++ (m.indent.1 ++ m.head)) ++ (' ' :: m.type)).getLast? = some c →
          isBlank c = false := by
        intro c hc
        rw [List.getLast?_append_of_ne_nil _ (by simp), ← List.singleton_append,
          List.getLast?_append_of_ne_nil _ m.isType.ne_nil, ← m.isType.trimmed] at hc
        exact getLast?_strip_not_blank hc
      rw [hline, stripRight_append hlast hblank]
      intro hend
      have hlength : "*/".toList.length ≤ (' ' :: m.type).length := by
        have := List.length_pos_iff.2 m.isType.ne_nil
        show 2 ≤ m.type.length + 1
        omega
      rcases List.suffix_cons_iff.1 (List.suffix_of_suffix_length_le hend (List.suffix_append _ _) hlength)
        with he | hend
      · exact absurd (List.cons.inj he).1 (by decide)
      · exact m.isType.no_closing hend

/-- No comment ends where the line does, blank characters left aside. -/
theorem commentBefore?_line (front : Text) (hblank : b.allBlank = true) :
    commentBefore? (front ++ (m.line ++ b)) = none :=
  commentBefore?_eq_none (m.not_closing_suffix front hblank)

end WrittenMember

end ComponentBook.InterfaceDeclaration
