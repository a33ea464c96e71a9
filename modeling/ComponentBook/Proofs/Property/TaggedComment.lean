import ComponentBook.Proofs.Property.WrittenBody
import ComponentBook.Proofs.Script.TaggedLines

/-! # Tags in the comments of an interface

A comment whose lines hold text and tags (**`TaggedComment`**) is found as it is written, provided that no line
holds the opening of a comment (`TaggedComment.found_toDocLines`). So the `@default` of a member of an interface
(**`TaggedItem`**) is its default when nothing else is assigned to the name, and **`tagValues_kept_iff`** says
when tags are read to their last character, and with them the defaults: exactly when no value ends like a
comment. -/

namespace ComponentBook.InterfaceDeclaration

open Script Text AssignedDefault
open Script.DocComment (IsDocText TaggedLine IsTagName EndsInDecoration tagValue? value? taggedText
  tagValue?_taggedText tagValue?_eq_value?_iff unbroken_row)

variable {word t : Text} {scope : Text}

/-! ## Comments with tags -/

/-- A documentation comment on lines of its own, each of them text or a tag. -/
structure TaggedComment where
  /-- The blank characters in front of its lines. -/
  indent : BlankLine
  /-- Its lines. -/
  lines : List TaggedLine
  isWritten : ∀ line ∈ lines, line.IsWritten
  no_opening : ∀ line ∈ lines, ¬ "/**".toList <:+: line.content
  no_closing : ∀ line ∈ lines, ¬ "*/".toList <:+: line.content

namespace TaggedComment

variable (comment : TaggedComment)

/-- Its text. -/
def text : Text := taggedText comment.indent.1 comment.lines

/-- What it says of a tag. -/
def value? (name : Text) : Option Text := DocComment.value? name comment.lines

/-- The lines behind the opening. -/
def further : FurtherLines where
  middle := comment.lines.map (·.row comment.indent.1)
  closing := comment.indent.1 ++ [' ']
  middle_filled := by
    refine List.forall_mem_map.2 fun line hline => ⟨unbroken_row comment.indent.2.2 (comment.isWritten line hline), ?_⟩
    rw [isEmptyLine, List.all_eq_false]
    exact ⟨'*', by simp [TaggedLine.row, decorate], by decide⟩
  closing_unbroken := comment.indent.2.2.append (by decide)
  closing_star := by
    have hblank : allBlank (comment.indent.1 ++ [' ']) = true := by
      rw [allBlank_append, comment.indent.2.1]
      decide
    rw [stripLeft_eq_nil_iff.2 hblank]
    exact nofun

theorem linesText_further : linesText [] (some comment.further) = comment.text := by
  rw [linesText, text, taggedText, List.flatMap_cons, List.append_assoc]
  rfl

theorem not_infix_indent (hne : word ≠ []) (hword : ∀ c ∈ word, isBlank c = false) :
    ¬ word <:+: comment.indent.1 := by
  intro hin
  obtain ⟨c, hc⟩ := List.exists_mem_of_ne_nil word hne
  have hblank := allBlank_eq_true_iff.1 comment.indent.2.1 c (hin.subset hc)
  rw [hword c hc] at hblank
  cases hblank

/-- A mark without blank characters stands in an indented line only if it stands behind the asterisk. -/
theorem infix_of_row (hmark : IsMark word) (hword : ∀ c ∈ word, isBlank c = false) {line : TaggedLine}
    (h : word <:+: line.row comment.indent.1) : word <:+: line.content := by
  have hshape : line.row comment.indent.1 = comment.indent.1 ++ ' ' :: ('*' :: ' ' :: line.content) := rfl
  rw [hshape] at h
  rcases infix_or_infix_of_not_mem hmark.ne_nil hmark.no_space h with hindent | hrow
  · exact absurd hindent (comment.not_infix_indent hmark.ne_nil hword)
  · exact hmark.infix_of_decoration (hrow.trans (List.suffix_cons ' ' _).isInfix)

theorem not_infix_text (hmark : IsMark word) (hword : ∀ c ∈ word, isBlank c = false)
    (h : ∀ line ∈ comment.lines, ¬ word <:+: line.content) : ¬ word <:+: comment.text := by
  have hrows : ∀ row ∈ [] :: comment.lines.map (·.row comment.indent.1), ¬ word <:+: row :=
    List.forall_mem_cons.2 ⟨fun hnil => hmark.ne_nil (List.infix_nil.1 hnil),
      List.forall_mem_map.2 fun line hline => mt (comment.infix_of_row hmark hword) (h line hline)⟩
  have hclosing : ¬ word <:+: comment.indent.1 ++ [' '] := by
    intro hin
    rcases infix_or_infix_of_not_mem hmark.ne_nil hmark.no_space hin with hindent | hnil
    · exact comment.not_infix_indent hmark.ne_nil hword hindent
    · exact hmark.ne_nil (List.infix_nil.1 hnil)
  exact not_infix_flatMap_newline hmark.ne_nil hmark.no_feed hrows hclosing

theorem isDocText : IsDocText comment.text where
  exists_blank := ⟨'\n', _, comment.linesText_further.symm, by decide⟩
  no_opening := comment.not_infix_text ⟨by decide, by decide, by decide⟩ (by decide) comment.no_opening
  no_closing := comment.not_infix_text isMark_closing (by decide) comment.no_closing

/-- The comment among others. -/
def toDocLines : DocLines where
  indent := comment.indent
  first := []
  further := some comment.further
  first_unbroken := nofun
  isDocText := by
    rw [comment.linesText_further]
    exact comment.isDocText

/-- It is found as it is written. -/
theorem found_toDocLines : comment.toDocLines.found = comment.text := by
  have htext : comment.toDocLines.text = comment.text := comment.linesText_further
  have hlast : ¬ "/*".toList <:+ comment.text := by
    rintro ⟨front, hfront⟩
    have hspace : comment.text.getLast? = some ' ' := by
      rw [text, taggedText, ← List.append_assoc, List.getLast?_concat]
    rw [← hfront, List.getLast?_append] at hspace
    exact absurd (Option.some.inj hspace) (by decide)
  rw [DocLines.found, htext, if_neg hlast]

end TaggedComment

/-! ## Members with such comments -/

/-- A member with the comment in front of it and the blank lines behind it. -/
structure TaggedItem where
  /-- The comment. -/
  comment : Option TaggedComment
  /-- The member. -/
  member : WrittenMember
  /-- The blank lines. -/
  behind : List BlankLine

namespace TaggedItem

variable (item : TaggedItem)

/-- The item as a line with a comment. -/
def toCommentedLine : CommentedLine where
  comment := item.comment.map TaggedComment.toDocLines
  line := item.member.toTopLine
  behind := item.behind

/-- The default that the comment gives to the member. -/
def tagged? : Option Text := item.comment.bind (·.value? "default")

/-- The name of the member and its default: what is assigned to the name in `scope`, or what the comment
says. -/
def declared (scope : Text) : Text × Option Text :=
  (item.member.name, (assignedDefault? scope item.member.name).or item.tagged?)

/-- What the item is read as. -/
theorem read_toCommentedLine :
    item.toCommentedLine.read = [⟨item.member.member, item.comment.map TaggedComment.text⟩] := by
  rw [CommentedLine.read, toCommentedLine, Option.map_map]
  have hfound : DocLines.found ∘ TaggedComment.toDocLines = TaggedComment.text :=
    funext TaggedComment.found_toDocLines
  rw [hfound]
  rfl

/-- The default is read as it is written when something else is assigned to the name, or when the value of the
tag does not end like a comment. -/
theorem default_iff :
    (CommentedMember.mk item.member.member (item.comment.map TaggedComment.text)).default? scope =
        (item.declared scope).2 ↔
      (assignedDefault? scope item.member.name = none →
        ∀ value, item.tagged? = some value → ¬ EndsInDecoration value) := by
  have hname : item.member.member.name = item.member.name := rfl
  have hdefault : IsTagName "default" := ⟨by decide, by decide⟩
  rw [CommentedMember.default?, declared, hname]
  dsimp only
  cases assignedDefault? scope item.member.name with
  | some value => exact iff_of_true rfl nofun
  | none =>
    rw [Option.none_or, Option.none_or, tagged?]
    cases item.comment with
    | none => exact iff_of_true rfl fun _ => nofun
    | some comment =>
      rw [imp_iff_right rfl]
      exact tagValue?_eq_value?_iff comment.indent.2.1 comment.indent.2.2 comment.isWritten hdefault

end TaggedItem

/-- A body of such members: blank lines in front, and what stands in front of the closing brace on its line. -/
structure TaggedBody where
  /-- The blank lines in front of the members. -/
  leading : List BlankLine
  /-- The members. -/
  items : List TaggedItem
  /-- The blank characters in front of the closing brace. -/
  last : BlankLine

/-- Its text. -/
def TaggedBody.text (body : TaggedBody) : Text :=
  laid (body.leading.map Subtype.val ++ body.items.flatMap fun item => item.toCommentedLine.lines) ++ body.last.1

/-- The members of the body, each with its comment. -/
theorem membersOf_taggedBody (body : TaggedBody) : membersOf body.text =
    body.items.map fun item => ⟨item.member.member, item.comment.map TaggedComment.text⟩ := by
  have hlines : (body.items.flatMap fun item => item.toCommentedLine.lines) =
      (body.items.map TaggedItem.toCommentedLine).flatMap CommentedLine.lines := by
    rw [List.flatMap_map]
  rw [TaggedBody.text, hlines, membersOf_commentedLines, List.flatMap_map,
    List.flatMap_congr fun item _ => item.read_toCommentedLine]
  exact List.map_eq_flatMap.symm

/-- **When tags are read to their last character.** The value of a tag is that of the first line with its name,
exactly when this value does not end in an asterisk or a slash. So the members of an interface get the defaults
that their comments give them exactly when none of these values ends so, where nothing else is assigned to the
name. -/
theorem tagValues_kept_iff (indent : BlankLine) {lines : List TaggedLine} {name : Text}
    (hlines : ∀ line ∈ lines, line.IsWritten) (hname : IsTagName name) :
    (tagValue? name (taggedText indent.1 lines) = value? name lines ↔
      ∀ value, value? name lines = some value → ¬ EndsInDecoration value) ∧
    ∀ (script : Text) (located : Located) (body : TaggedBody), interfaceBlock? script = some located →
      located.body = body.text →
        ((interfaceProperties script).map (fun p => (p.name, p.default)) =
            body.items.map (·.declared (defaultsScope (located.before ++ located.after))) ↔
          ∀ item ∈ body.items,
            assignedDefault? (defaultsScope (located.before ++ located.after)) item.member.name = none →
              ∀ value, item.tagged? = some value → ¬ EndsInDecoration value) := by
  refine ⟨tagValue?_eq_value?_iff indent.2.1 indent.2.2 hlines hname, ?_⟩
  intro script located body hblock hbody
  rw [interfaceProperties, hblock]
  dsimp only
  rw [hbody, membersOf_taggedBody, List.map_map, List.map_map, List.map_inj_left]
  refine forall₂_congr fun item _ => ?_
  rw [← item.default_iff]
  exact ⟨congrArg Prod.snd, congrArg (Prod.mk item.member.name)⟩

/-! ## Two scripts -/

/-- Text with asterisks and slashes, a tag whose name starts like that of another one, and a path. -/
def pathComment : TaggedComment where
  indent := twoSpaces
  lines := [.text "* Where it is /* found.", .tag "defaults" "are /given/", .tag "default" "/img/*.png",
    .tag "default" "ignored/"]
  isWritten := by decide
  no_opening := by decide
  no_closing := by decide

theorem isRemark_none : ∀ c : Text, (none : Option Text) = some c → Unbroken c ∧ ¬ "*/".toList <:+: c := nofun

/-- A member behind this comment, and one without a comment. -/
def pathBody : TaggedBody where
  leading := [noIndent]
  items := [
    { comment := some pathComment
      member := {
        indent := twoSpaces, isReadonly := false, name := "icon", optional := true, type := "Path"
        semicolon := false, remark := none, isName := ⟨by decide, by decide⟩
        isType := isType_of_letters (by decide) (by decide), isRemark := isRemark_none }
      behind := [] },
    { comment := none
      member := {
        indent := twoSpaces, isReadonly := false, name := "alt", optional := false, type := "Label"
        semicolon := true, remark := none, isName := ⟨by decide, by decide⟩
        isType := isType_of_letters (by decide) (by decide), isRemark := isRemark_none }
      behind := [] }]
  last := noIndent

/-- A script with an interface of these members. -/
def pathScript : Text := "interface XProps \x7b" ++ pathBody.text ++ "\x7d"

/-- The path is read, and is the default of its member. -/
theorem tagValues_pathScript :
    tagValue? "default" (taggedText twoSpaces.1 pathComment.lines) = some "/img/*.png".toList ∧
      (interfaceProperties pathScript).map (fun p => (p.name, p.default)) =
        [("icon".toList, some "/img/*.png".toList), ("alt".toList, none)] := by
  have hblock : interfaceBlock? pathScript = some { body := pathBody.text, before := [], after := [] } := by
    decide +kernel
  have hkept : ∀ value, value? "default" pathComment.lines = some value → ¬ EndsInDecoration value := by
    rintro value he
    obtain rfl := Option.some.inj he
    decide
  have hname : IsTagName "default" := by decide
  obtain ⟨hvalue, hdefaults⟩ := tagValues_kept_iff twoSpaces pathComment.isWritten hname
  refine ⟨hvalue.2 hkept, (hdefaults pathScript _ pathBody hblock rfl).2 fun item hitem _ => ?_⟩
  rcases List.mem_cons.1 hitem with rfl | hitem
  · exact hkept
  · obtain rfl := List.mem_singleton.1 hitem
    exact nofun

/-- A script whose comment gives its member a path with two asterisks. -/
def globScript : Text :=
  "interface XProps \x7b\n  /**\n   * @default assets/**.png\n   */\n  icon: string\n\x7d"

/-- **A value that ends like a comment is not read to its last character**, and nothing is left of an asterisk.
The opening of a comment in a value hides the tag from the member behind the comment. -/
theorem tagValue?_cut :
    (value? "default" [.tag "default" "/api/"] = some "/api/".toList ∧
      tagValue? "default" (taggedText [] [.tag "default" "/api/"]) = some "/api".toList) ∧
    (value? "default" [.tag "default" "*"] = some ['*'] ∧
      tagValue? "default" (taggedText [] [.tag "default" "*"]) = none) ∧
    tagValue? "default" (taggedText [' ', ' '] [.tag "default" "assets/**.png"]) = some "assets/**.png".toList ∧
      (interfaceProperties globScript).map (fun p => (p.name, p.default)) = [("icon".toList, none)] := by
  decide +kernel

end ComponentBook.InterfaceDeclaration
