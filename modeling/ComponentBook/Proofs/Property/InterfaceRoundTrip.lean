import ComponentBook.Proofs.Property.WrittenBody
import ComponentBook.Proofs.Script.Bracket

/-! # Interfaces read back

A script with an interface is a text around the words in front of the interface and its body
(**`WrittenInterface`**). The interface is found (`interfaceBlock?_text`), its members are those of the body,
and no default is found for a name that is followed by no colon outside of the interface
(`assignedDefault?_eq_none`). **`interfaceProperties_text`** tells what is read of the interface;
**`interfaceProperties_text_iff`** tells when these are the properties that it declares: always, but for a
comment whose text ends in `/*` and which says something else than the line comment behind its member. -/

namespace ComponentBook.InterfaceDeclaration

open Script Text ObjectDeclaration AssignedDefault
open Script.DocComment (prose tagValue? tagValue?_eq_none)

variable {t scope : Text}

/-! ## Defaults from elsewhere -/

section

variable {name : Text}

/-- Somewhere in `scope` the name is followed by a colon, blank characters between them left aside. -/
def Assigns (scope name : Text) : Prop :=
  ∃ blank : BlankText, name ++ (blank.1 ++ [':']) <:+: scope

/-- A value is found behind a name with a colon. -/
theorem assigns_of_valueHere? {before : Option Char} {value : Text}
    (h : valueHere? name before t = some value) : Assigns t name := by
  rw [valueHere?] at h
  simp only [Option.bind_eq_bind, Option.bind_eq_some_iff] at h
  obtain ⟨-, -, behind, hname, rest, hcolon, -⟩ := h
  -- the blank characters in front of the colon are those that are taken off
  obtain ⟨blank, hbehind⟩ := exists_blank_stripLeft behind
  rw [dropPrefix?_eq_some_iff.1 hcolon] at hbehind
  refine ⟨blank, [], rest, ?_⟩
  rw [dropPrefix?_eq_some_iff.1 hname, hbehind]
  simp

/-- No default is found for a name that is followed by no colon. -/
theorem assignedDefault?_eq_none (h : ¬ Assigns scope name) : assignedDefault? scope name = none := by
  rw [assignedDefault?, Option.map_eq_none_iff, search_eq_none_iff]
  rintro x y rfl
  rw [Option.eq_none_iff_forall_ne_some]
  intro value hvalue
  obtain ⟨blank, hin⟩ := assigns_of_valueHere? hvalue
  exact h ⟨blank, hin.trans (List.suffix_append x y).isInfix⟩

theorem withDefaultsCall?_suffix {before : Option Char} {call : Text}
    (h : withDefaultsCall? before t = some call) : call <:+ t := by
  rw [withDefaultsCall?] at h
  simp only [Option.bind_eq_bind, Option.bind_eq_some_iff] at h
  obtain ⟨-, -, rest, hword, -, -, -, -, -, -, h⟩ := h
  obtain rfl := Option.some.inj h
  rw [dropPrefix?_eq_some_iff.1 hword]
  exact (List.dropWhile_suffix isBlank).trans (List.suffix_append _ rest)

/-- The text in which defaults are looked for stands in the script. -/
theorem defaultsScope_isInfix (script : Text) : defaultsScope script <:+: script := by
  have hgetD (found : Option Text) (h : ∀ scope, found = some scope → scope <:+: script) :
      found.getD script <:+: script := by
    cases found with
    | none => exact List.infix_rfl
    | some scope => exact h scope rfl
  refine hgetD _ fun scope hfound => ?_
  simp only [Option.bind_eq_bind, Option.bind_eq_some_iff] at hfound
  obtain ⟨⟨skipped, call⟩, hsearch, ⟨arguments, rest⟩, hblock, segment, hsegment, h⟩ := hfound
  obtain rfl := Option.some.inj h
  obtain ⟨u, rfl, hcall, -⟩ := exists_of_search hsearch
  have hsuffix : call <:+ skipped ++ u := (withDefaultsCall?_suffix hcall).trans (List.suffix_append _ _)
  have hmem : segment ∈ commaSegments arguments := List.mem_of_getElem? hsegment
  exact (infix_of_mem_splitTopLevel hmem).trans ((infix_of_balancedBlock? hblock).trans hsuffix.isInfix)

theorem Assigns.of_infix {part : Text} (h : Assigns part name) (hpart : part <:+: scope) :
    Assigns scope name := by
  obtain ⟨blank, hin⟩ := h
  exact ⟨blank, hin.trans hpart⟩

end

/-! ## The property of a member -/

/-- A text, or another one in its place when it is empty. -/
def orElse (t other : Text) : Text := if t = [] then other else t

theorem CommentedMember.description_eq (m : CommentedMember) :
    m.description = orElse ((m.comment.map prose).getD []) m.member.remark := by
  rw [description]
  cases m.comment.map prose with
  | none => rfl
  | some t => cases t <;> rfl

namespace WrittenItem

variable (item : WrittenItem)

/-- The description that is written: the prose of the comment when there is any, else what stands in the
line comment. -/
def description : Text :=
  orElse ((item.comment.map fun comment => prose comment.text).getD []) item.member.member.remark

/-- The property that it declares. -/
def property : Property where
  name := item.member.name
  type := item.member.type
  required := !item.member.optional
  default := none
  description := item.description
  source := source

/-- The property that is read: its description is that of what is found of the comment. -/
def readProperty : Property := { item.property with description := item.read.description }

/-- The description is read as it is written, unless the comment ends in the opening of a comment and says
something else than the line comment. -/
theorem description_read_iff : item.read.description = item.description ↔
    ∀ comment, item.comment = some comment → "/*".toList <:+ comment.text →
      prose comment.text = [] ∨ prose comment.text = item.member.member.remark := by
  rw [CommentedMember.description_eq, description, read, found]
  cases item.comment with
  | none =>
    constructor
    · intro _ comment he
      cases he
    · exact fun _ => rfl
  | some comment =>
    have hempty : prose [] = [] := by decide
    simp only [Option.map_some, Option.getD_some, Option.some.injEq, forall_eq']
    by_cases hend : "/*".toList <:+ comment.text
    · -- nothing is found, and the line comment stands in its place
      rw [if_pos hend, hempty, orElse, if_pos rfl, orElse]
      constructor
      · intro h _
        split at h
        · next hnil => exact .inl hnil
        · exact .inr h.symm
      · intro h
        rcases h hend with hnil | hsame
        · rw [if_pos hnil]
        · rw [hsame, ite_self]
    · rw [if_neg hend]
      exact ⟨fun _ hend' => absurd hend' hend, fun _ => rfl⟩

theorem readProperty_eq_property_iff : item.readProperty = item.property ↔
    ∀ comment, item.comment = some comment → "/*".toList <:+ comment.text →
      prose comment.text = [] ∨ prose comment.text = item.member.member.remark := by
  rw [← item.description_read_iff]
  constructor
  · exact fun h => congrArg Property.description h
  · intro h
    rw [readProperty, h]
    rfl

/-- No tag gives a default. -/
theorem tagValue?_found (tag : Text) : item.found.bind (tagValue? tag) = none := by
  rw [found]
  cases item.comment with
  | none => rfl
  | some comment =>
    apply tagValue?_eq_none
    dsimp only
    split
    · exact List.not_mem_nil
    · exact comment.no_tag

/-- The property of a member to whose name nothing is assigned. -/
theorem property_read (h : ¬ Assigns scope item.member.name) :
    item.read.property scope = item.readProperty := by
  have hdefault : item.read.default? scope = none := by
    have hassigned : assignedDefault? scope item.member.name = none := assignedDefault?_eq_none h
    rw [CommentedMember.default?]
    show (assignedDefault? scope item.member.name).or (item.found.bind (tagValue? "default")) = none
    rw [hassigned, item.tagValue?_found]
    rfl
  rw [CommentedMember.property, hdefault]
  rfl

end WrittenItem

/-! ## Scripts -/

/-- The interface in a script: its name ends in `Props`, and no brace and no semicolon stands between the
name and the body. -/
structure WrittenInterface where
  /-- The blank characters in front of the name. -/
  blank : BlankText
  /-- The name up to `Props`. -/
  stem : Text
  /-- What stands between the name and the body. -/
  gap : Text
  /-- The body. -/
  body : WrittenBody
  blank_ne_nil : blank.1 ≠ []
  isStem : stem = [] ∨ IsIdentifier stem
  gap_head : ∀ d, gap.head? = some d → isIdentifierChar d = false
  gap_open : ∀ c ∈ gap, c ≠ '{' ∧ c ≠ ';'

namespace WrittenInterface

/-- Its name. -/
def name (decl : WrittenInterface) : Text := decl.stem ++ "Props"

/-- Its text from the brace on, with the text behind it. -/
def block (decl : WrittenInterface) (after : Text) : Text := '{' :: (decl.body.text ++ '}' :: after)

/-- Its text, with the text behind it. -/
def text (decl : WrittenInterface) (after : Text) : Text :=
  "interface" ++ (decl.blank.1 ++ (decl.name ++ (decl.gap ++ decl.block after)))

end WrittenInterface

/-- A script with an interface that no other one stands in front of, and outside of which none of the names
of its members is followed by a colon. -/
structure WrittenScript where
  /-- The text in front of the interface. -/
  before : Text
  /-- The interface. -/
  decl : WrittenInterface
  /-- The text behind the interface. -/
  after : Text
  no_word : before.getLast?.any isWord = false
  first : ∀ x y, before = x ++ y → y ≠ [] → interfaceHere? x.getLast? (y ++ decl.text after) = none
  unassigned : ∀ item ∈ decl.body.items, ¬ Assigns (before ++ after) item.member.name

namespace WrittenScript

/-- Its text. -/
def text (script : WrittenScript) : Text := script.before ++ script.decl.text script.after

/-- The properties that it declares, in order. -/
def properties (script : WrittenScript) : List Property :=
  script.decl.body.items.map WrittenItem.property

end WrittenScript

namespace WrittenInterface

variable (decl : WrittenInterface)

theorem name_isIdentifier : IsIdentifier decl.name := by
  have hprops : IsIdentifier "Props" := ⟨by decide, by decide⟩
  rw [name]
  rcases decl.isStem with hnil | ⟨hstart, hall⟩
  · rw [hnil]
    exact hprops
  · refine ⟨?_, fun c hc => ?_⟩
    · cases hstem : decl.stem with
      | nil => exact hprops.1
      | cons c stem =>
        rw [hstem] at hstart
        exact hstart
    · rcases List.mem_append.1 hc with hc | hc
      · exact hall c hc
      · exact hprops.2 c hc

theorem namesProps_name : namesProps decl.name = true := by
  have hsome : (search (fun _ t => do
      let rest ← dropPrefix? "Props" t
      guard (rest.head?.all (· = '$'))) none decl.name).isSome = true := by
    rw [Option.isSome_iff_ne_none, ne_eq, search_eq_none_iff]
    intro h
    have hhere := h decl.stem "Props" rfl
    exact absurd hhere (by decide)
  rw [namesProps, decl.name_isIdentifier.1, hsome]
  rfl

/-- The interface is found at its place. -/
theorem interfaceHere?_text {before : Option Char} (h : before.any isWord = false) (after : Text) :
    interfaceHere? before (decl.text after) = some (decl.block after) := by
  obtain ⟨hstart, hall⟩ := decl.name_isIdentifier
  have hboundary : boundary before (decl.text after).head? = true := by
    have hhead : (decl.text after).head? = some 'i' := rfl
    rw [boundary, h, hhead]
    decide
  have hfirst : ∀ c, (decl.name ++ (decl.gap ++ decl.block after)).head? = some c → isBlank c = false := by
    intro c hc
    cases hname : decl.name with
    | nil =>
      rw [hname] at hstart
      cases hstart
    | cons d name =>
      rw [hname] at hstart hc
      obtain rfl : d = c := Option.some.inj hc
      exact not_blank_of_isIdentifierStart hstart
  have hblanks : dropBlanks? (decl.blank.1 ++ (decl.name ++ (decl.gap ++ decl.block after))) =
      some (decl.name ++ (decl.gap ++ decl.block after)) := dropBlanks?_append decl.blank_ne_nil hfirst
  have htake : (decl.name ++ (decl.gap ++ decl.block after)).takeWhile isIdentifierChar = decl.name := by
    refine takeWhile_append_of_stop hall fun d hd => ?_
    cases hgap : decl.gap with
    | nil =>
      rw [hgap] at hd
      obtain rfl : '{' = d := Option.some.inj hd
      decide
    | cons c gap =>
      rw [hgap] at hd
      exact decl.gap_head d (by rw [hgap]; exact hd)
  have hdrop : (decl.name ++ (decl.gap ++ decl.block after)).dropWhile (fun c => c ≠ '{' && c ≠ ';') =
      decl.block after := by
    rw [← List.append_assoc]
    refine dropWhile_append_of_stop (fun c hc => ?_) fun d hd => ?_
    · rcases List.mem_append.1 hc with hc | hc
      · have hchar := hall c hc
        have hne : ∀ d, isIdentifierChar d = false → c ≠ d := by
          rintro d hd rfl
          rw [hchar] at hd
          cases hd
        simp [hne '{' (by decide), hne ';' (by decide)]
      · simp [decl.gap_open c hc]
    · obtain rfl : '{' = d := Option.some.inj hd
      decide
  have htext : decl.text after =
      "interface" ++ (decl.blank.1 ++ (decl.name ++ (decl.gap ++ decl.block after))) := rfl
  -- the second form, an object type, is not looked at
  rw [interfaceHere?, hboundary, htext]
  simp only [dropPrefix?_append, hblanks, htake, hdrop, decl.namesProps_name, Option.bind_eq_bind,
    Option.bind_some]
  rfl

end WrittenInterface

/-- The interface is found. -/
theorem interfaceBlock?_text (script : WrittenScript) :
    interfaceBlock? script.text =
      some { body := script.decl.body.text, before := script.before, after := script.after } := by
  have hblock : balancedBlock? (script.decl.block script.after) =
      some (script.decl.body.text, script.after) :=
    balancedBlock?_code script.decl.body.code_text .curly script.after
  have hsearch : search interfaceHere? none script.text =
      some (script.before, script.decl.block script.after) :=
    search_of_first_place script.first (script.decl.interfaceHere?_text script.no_word script.after)
  rw [interfaceBlock?, hsearch]
  simp [hblock]

/-- **An interface is read as it is written.** The properties are those of the members, in order, with the
descriptions of what is found of their comments. -/
theorem interfaceProperties_text (script : WrittenScript) :
    interfaceProperties script.text = script.decl.body.items.map WrittenItem.readProperty := by
  rw [interfaceProperties, interfaceBlock?_text]
  dsimp only
  rw [membersOf_body, List.map_map]
  refine List.map_congr_left fun item hitem => item.property_read fun hassigns => ?_
  exact script.unassigned item hitem (hassigns.of_infix (defaultsScope_isInfix _))

/-- **The properties are those that are written** exactly when every comment whose text ends in the opening
of a comment says nothing before its first tag, or the same as the line comment behind its member: of such a
comment nothing is found. -/
theorem interfaceProperties_text_iff (script : WrittenScript) :
    interfaceProperties script.text = script.properties ↔
      ∀ item ∈ script.decl.body.items, ∀ comment, item.comment = some comment →
        "/*".toList <:+ comment.text →
          prose comment.text = [] ∨ prose comment.text = item.member.member.remark := by
  rw [interfaceProperties_text, WrittenScript.properties, List.map_inj_left]
  simp only [WrittenItem.readProperty_eq_property_iff]

/-! ## Two scripts -/

/-- A type whose semicolon stands in a brace. -/
theorem isType_object : IsType "{ id: number; }[]" := by
  have hbody : Code false (fun _ => false) " id: number; " := .of_inert (by decide)
  have hcode : Code false (· == ';') "{ id: number; }[]" :=
    .block .curly hbody (.block .square .nil .nil)
  refine ⟨hcode, by decide, by decide, by decide, by decide, fun c hc => ?_, by decide⟩
  obtain rfl : ']' = c := Option.some.inj hc
  decide

theorem not_assigns_of_not_mem {name : Text} (h : ':' ∉ scope) : ¬ Assigns scope name := by
  rintro ⟨blank, hin⟩
  exact h (hin.subset (by simp))

/-- A member behind a comment of several lines and an empty line, and one with a line comment. -/
def sampleScript : WrittenScript where
  before := "export "
  decl := {
    blank := space, stem := "List", gap := " extends Base "
    body := {
      leading := [noIndent]
      items := [
        { comment := some {
            indent := twoSpaces, first := [], first_unbroken := by decide
            further := some {
              middle := ["   * The items."], closing := "   "
              middle_filled := by decide, closing_unbroken := by decide, closing_star := by decide }
            isDocText := ⟨⟨_, _, rfl, by decide⟩, by decide, by decide⟩, no_tag := by decide }
          member := {
            indent := twoSpaces, isReadonly := true, name := "items", optional := false
            type := "{ id: number; }[]", semicolon := true, remark := none
            isName := ⟨by decide, by decide⟩, isType := isType_object, isRemark := nofun }
          behind := [noIndent] },
        { comment := none
          member := {
            indent := twoSpaces, isReadonly := false, name := "size", optional := true
            type := "number", semicolon := false, remark := some "how many"
            isName := ⟨by decide, by decide⟩, isType := isType_of_letters (by decide) (by decide)
            isRemark := by
              intro c hc
              obtain rfl := Option.some.inj hc
              decide }
          behind := [] }]
      last := noIndent }
    blank_ne_nil := by decide, isStem := .inr ⟨by decide, by decide⟩
    gap_head := by decide, gap_open := by decide }
  after := "\n"
  no_word := by decide
  first := none_of_search (by decide)
  unassigned := fun _ _ => not_assigns_of_not_mem (by decide)

theorem interfaceProperties_sampleScript : interfaceProperties sampleScript.text = [
    ⟨"items", "{ id: number; }[]", true, none, "The items.", "interface"⟩,
    ⟨"size", "number", false, none, "how many", "interface"⟩] := by
  have hread := (interfaceProperties_text_iff sampleScript).2 fun item hitem comment he hend => by
    rcases List.mem_cons.1 hitem with rfl | hitem
    · obtain rfl := Option.some.inj he
      exact absurd hend (by decide)
    · obtain rfl := List.mem_singleton.1 hitem
      cases he
  rw [hread]
  decide

/-- A comment that ends in the opening of a comment. -/
def cutCommentScript : WrittenScript where
  before := []
  decl := {
    blank := space, stem := "X", gap := " "
    body := {
      leading := [noIndent]
      items := [
        { comment := some {
            indent := twoSpaces, first := " a/*", first_unbroken := by decide, further := none
            isDocText := ⟨⟨_, _, rfl, by decide⟩, by decide, by decide⟩, no_tag := by decide }
          member := {
            indent := twoSpaces, isReadonly := false, name := "x", optional := false
            type := "string", semicolon := false, remark := none
            isName := ⟨by decide, by decide⟩, isType := isType_of_letters (by decide) (by decide)
            isRemark := nofun }
          behind := [] }]
      last := noIndent }
    blank_ne_nil := by decide, isStem := .inr ⟨by decide, by decide⟩
    gap_head := by decide, gap_open := by decide }
  after := []
  no_word := Option.any_none
  first := none_of_search (by decide)
  unassigned := fun _ _ => not_assigns_of_not_mem (by decide)

/-- Of that comment nothing is found. -/
theorem interfaceProperties_cutCommentScript :
    interfaceProperties cutCommentScript.text = [⟨"x", "string", true, none, "", "interface"⟩] ∧
      cutCommentScript.properties = [⟨"x", "string", true, none, "a/*", "interface"⟩] := by
  rw [interfaceProperties_text]
  decide

end ComponentBook.InterfaceDeclaration
