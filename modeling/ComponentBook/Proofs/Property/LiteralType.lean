import ComponentBook.Proofs.Property.MemberText

/-! # Types with string literals

The line of a member is cut into entries with regard to string literals, and its entry is read without. So a type
with string literals of any content is kept in one entry, with the line comment that follows, but two slashes in
a literal are taken for the start of that comment. **`exists_interfaceProperties_member`**: a member on a line that
starts at the top level is always found, and its type and its line comment are read as they are written if and
only if no two slashes stand in the type. -/

namespace ComponentBook.InterfaceDeclaration

open Script Text
open Script.DocComment (commentBefore? commentBefore?_eq_none)

variable {k : Bool} {front rest : List Text}

namespace MemberText

variable (m : MemberText)

/-- What the entry on the line is read as. -/
theorem exists_member : ∃ member, member? m.entry = some member ∧ member.name = m.signature.name ∧
    member.optional = m.signature.optional ∧
      (member.type = m.signature.type ↔ ¬ "//".toList <:+: m.signature.type) ∧
        (¬ "//".toList <:+: m.signature.type → member.remark = m.remarkSaid) := by
  -- two slashes in the type end it early, and nothing else does
  by_cases hin : "//".toList <:+: m.signature.type
  · obtain ⟨found, remark, hread, hlt⟩ := m.exists_member?_entry hin
    have hne : found ≠ m.signature.type := by
      rintro rfl
      exact absurd hlt (lt_irrefl _)
    exact ⟨_, hread, rfl, rfl, ⟨fun he => absurd he hne, fun hno => absurd hin hno⟩, fun hno => absurd hin hno⟩
  · exact ⟨_, m.member?_entry hin, rfl, rfl, ⟨fun _ => hin, fun _ => rfl⟩, fun _ => rfl⟩

/-- The member on a line that starts at the top level is found behind those in front of it. -/
theorem exists_membersFrom {member : Member} (hread : member? m.entry = some member)
    (hstate : (behindLines [] {} front).2 = {}) (rest : List Text) : ∃ comment others,
      membersFrom [] {} (front ++ m.line :: rest) = membersFrom [] {} front ++ ⟨member, comment⟩ :: others ∧
        (¬ "*/".toList <:+ (laid front ++ m.indent.1).stripRight → comment = none) := by
  have hsuffix := behindLines_isSuffix [] {} front
  rw [membersFrom_append m.isEmptyLine_line, hstate, membersFrom_cons, LineState.members, if_pos m.atTop_line,
    m.membersOn_line hread]
  refine ⟨_, _, rfl, fun hno => commentBefore?_eq_none fun hend => hno ?_⟩
  -- a comment that ends in the paragraph ends in the lines
  obtain ⟨x, hx⟩ := hsuffix
  rw [List.nil_append] at hx
  rw [← hx, List.append_assoc]
  exact hend.trans (stripRight_isSuffix x _)

end MemberText

/-- **A member is read as it is written** if and only if no two slashes stand in its type: that is its type and,
when its comment says nothing, its line comment. Its name and whether it is optional are read in any case. -/
theorem exists_interfaceProperties_member {script : Text} {located : Located}
    (h : interfaceBlock? script = some located) (m : MemberText)
    (hbody : located.body = join ['\n'] (front ++ m.line :: rest)) (hfront : ∀ line ∈ front, Unbroken line)
    (hrest : ∀ line ∈ rest, Unbroken line) (hstate : (behindLines [] {} front).2 = {}) :
    ∃ property comment, (interfaceProperties script)[(membersOf (join ['\n'] front)).length]? = some property ∧
      property.name = m.signature.name ∧ property.required = !m.signature.optional ∧
      (property.type = m.signature.type ↔ ¬ "//".toList <:+: m.signature.type) ∧
      (¬ "//".toList <:+: m.signature.type → property.description =
        CommentedMember.description ⟨{ m.signature with remark := m.remarkSaid }, comment⟩) ∧
      (¬ "*/".toList <:+ (laid front ++ m.indent.1).stripRight → comment = none) := by
  obtain ⟨member, hread, hname, hoptional, htype, hremark⟩ := m.exists_member
  obtain ⟨comment, others, hmembers, hcomment⟩ := m.exists_membersFrom hread hstate rest
  have hlines : ∀ line ∈ front ++ m.line :: rest, Unbroken line :=
    List.forall_mem_append.2 ⟨hfront, List.forall_mem_cons.2 ⟨m.unbroken_line, hrest⟩⟩
  have hproperty : (interfaceProperties script)[(membersOf (join ['\n'] front)).length]? =
      some (CommentedMember.property ⟨member, comment⟩
        (AssignedDefault.defaultsScope (located.before ++ located.after))) := by
    rw [interfaceProperties, h, List.getElem?_map, hbody, membersOf_join hlines, hmembers, membersOf_join hfront,
      List.getElem?_append_right le_rfl, Nat.sub_self]
    rfl
  refine ⟨_, comment, hproperty, hname, congrArg (!·) hoptional, htype, fun hno => ?_, hcomment⟩
  show CommentedMember.description ⟨member, comment⟩ = _
  rw [CommentedMember.description, CommentedMember.description, hremark hno]

/-! ## Two scripts -/

/-- A string literal. -/
theorem code_string {t u : Text} (h : t.all fun c => c ≠ '\\' && c ≠ '\'' && c ≠ '\n')
    (hu : Code k (· == ';') u) : Code k (· == ';') ('\'' :: (t ++ '\'' :: u)) := by
  have htail : LiteralTail '\'' (t ++ ['\'']) := .of_plain fun c hc => by
    simpa [and_assoc] using List.all_eq_true.1 h c hc
  have hcode : Code k (· == ';') ('\'' :: (t ++ ['\''] ++ u)) := .literal (by decide) htail hu
  simpa using hcode

/-- A type of two string literals, one of them with a semicolon in it. -/
theorem isLineType_kind : IsLineType "'a; b' | 'c'" where
  code := code_string (t := "a; b") (by decide)
    (.inert_append (a := " | ") (by decide) (code_string (t := "c") (by decide) .nil))
  ne_nil := by decide
  trimmed := by decide
  unbroken := by decide
  no_separator c hc := by
    obtain rfl : '\'' = c := Option.some.inj hc
    decide

/-- A member with this type and a line comment with a semicolon in it. -/
def kindMember : MemberText where
  indent := twoSpaces
  signature := {
    isReadonly := false, name := "kind", optional := true, type := "'a; b' | 'c'"
    isName := ⟨by decide, by decide⟩, isType := isLineType_kind }
  semicolon := true
  remark := some " a; c "
  unbroken_remark c hc := by
    obtain rfl := Option.some.inj hc
    decide

/-- An interface in which it stands between other lines. -/
def kindInterface : Located where
  body := join ['\n'] (["".toList, "  id: number".toList] ++ kindMember.line :: [[]])
  before := []
  after := []

/-- A script with this interface. -/
def kindScript : Text := "interface XProps \x7b" ++ kindInterface.body ++ "\x7d"

/-- Its member is read as it is written. -/
theorem interfaceProperties_kindScript : ∃ property,
    (interfaceProperties kindScript)[1]? = some property ∧ property.name = "kind".toList ∧
      property.required = false ∧ property.type = "'a; b' | 'c'".toList ∧
        property.description = "a; c".toList := by
  have hblock : interfaceBlock? kindScript = some kindInterface := by decide +kernel
  have hplace : (membersOf (join ['\n'] ["".toList, "  id: number".toList])).length = 1 := by decide +kernel
  obtain ⟨property, comment, hproperty, hname, hrequired, htype, hdescription, hcomment⟩ :=
    exists_interfaceProperties_member hblock kindMember rfl (by decide) (by decide) (by decide +kernel)
  have hno : ¬ "//".toList <:+: kindMember.signature.type := by decide
  rw [hplace] at hproperty
  refine ⟨property, hproperty, hname, hrequired, htype.2 hno, ?_⟩
  rw [hdescription hno, hcomment (by decide)]
  decide

/-- A member with two slashes in its type. -/
def urlMember : MemberText where
  indent := twoSpaces
  signature := {
    isReadonly := false, name := "url", optional := false, type := "'http://x'"
    isName := ⟨by decide, by decide⟩
    isType := {
      code := code_string (t := "http://x") (by decide) .nil
      ne_nil := by decide, trimmed := by decide, unbroken := by decide
      no_separator := by
        intro c hc
        obtain rfl : '\'' = c := Option.some.inj hc
        decide } }
  semicolon := false
  remark := none
  unbroken_remark := nofun

/-- A script with this member in its interface. -/
def urlScript : Text := "interface XProps \x7b" ++ join ['\n'] ([] :: urlMember.line :: [[]]) ++ "\x7d"

/-- Its type is cut short and ends in a line comment that is none. -/
theorem interfaceProperties_urlScript :
    interfaceProperties urlScript = [⟨"url", "'http:", true, none, "x'", "interface"⟩] ∧
      urlMember.signature.type = "'http://x'" ∧ urlMember.remarkSaid = [] := by
  exact ⟨by decide +kernel, rfl, rfl⟩

end ComponentBook.InterfaceDeclaration
