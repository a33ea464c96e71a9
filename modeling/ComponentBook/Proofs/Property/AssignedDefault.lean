import ComponentBook.Proofs.Property.AssignedValue
import ComponentBook.Proofs.Text.Lines

/-! # Defaults that are handed to the properties of an interface

A call of `withDefaults` hands an object to the properties of an interface (**`DefaultsCall`**), with an entry for
each name (**`DefaultEntry`**); it stands outside of the interface (**`DefaultsScript`**). Defaults are looked
for in the text of that object (`defaultsScope_text`). Which entries are read as they are written is told by
**`search_valueHere?_iff`**, and what that means for the properties by **`default_of_entry`**. -/

namespace ComponentBook.AssignedDefault

open Script Text ObjectDeclaration InterfaceDeclaration

variable {before : Option Char} {d : Char} {name s t : Text}

/-! ## Entries -/

/-- An entry that gives a default to a name. -/
structure DefaultEntry where
  /-- The blank characters in front. -/
  lead : BlankText
  /-- The name. -/
  name : Text
  /-- Blank characters in front of the colon. -/
  beforeColon : BlankText
  /-- Blank characters behind the colon. -/
  afterColon : BlankText
  /-- The default. -/
  expression : Text
  /-- Blank characters behind the default. -/
  behind : BlankText
  isName : IsIdentifier name
  isExpression : IsExpression expression

namespace DefaultEntry

variable (entry : DefaultEntry)

/-- Its text from the name on. -/
def fromName : Text :=
  entry.name ++ (entry.beforeColon.1 ++ ':' :: (entry.afterColon.1 ++ (entry.expression ++ entry.behind.1)))

/-- Its text. -/
def text : Text := entry.lead.1 ++ entry.fromName

theorem code_text : Code true (· == ',') entry.text := by
  have hvalue : Code true (· == ',') entry.expression :=
    entry.isExpression.code.mono (by simp) fun _ h => h
  exact code_blank_append entry.lead (.inert_append (inert_of (by decide) entry.isName.2)
    (code_behind_name entry.beforeColon entry.afterColon entry.behind hvalue))

/-- The entry for another name is passed over when its default offers no value for the name. -/
theorem passes_text (hname : IsIdentifier name) (hne : entry.name ≠ name) (h : ¬ Offers entry.expression name)
    (hd : d = ',' ∨ d = '}') (rest : Text) : Passes name entry.text (d :: rest) := by
  refine (passes_blank hname entry.lead _).append (.append ?_ (.append (passes_blank hname _ _) ?_))
  · rw [List.append_assoc, List.cons_append]
    exact passes_name hname entry.isName hne _ _
  · rw [← List.singleton_append]
    exact (passes_mark hname (by decide) _).append ((passes_blank hname _ _).append
      ((passes_expression hname h entry.behind hd rest).append (passes_blank hname _ _)))

/-- What is read of the entry for the name. -/
theorem valueHere?_fromName (hbefore : before.any joinsName = false) (t : Text) :
    valueHere? entry.name before (entry.fromName ++ t) =
      valueAt? (entry.expression ++ (entry.behind.1 ++ t)) := by
  obtain ⟨c, u, hu⟩ := List.exists_cons_of_ne_nil entry.isExpression.ne_nil
  have hc : isBlank c = false := by
    have htrim := entry.isExpression.trimmed
    rw [hu] at htrim
    exact head?_strip_not_blank (t := c :: u) (by rw [htrim]; rfl)
  have hshape : entry.fromName ++ t = entry.name ++ (entry.beforeColon.1 ++
      ':' :: (entry.afterColon.1 ++ c :: (u ++ (entry.behind.1 ++ t)))) := by
    simp [fromName, hu]
  rw [hshape, valueHere?_entry hbefore _ _ _ hc, hu]
  rfl

end DefaultEntry

/-- Entries with a comma behind each. -/
def entriesText (entries : List DefaultEntry) : Text := entries.flatMap fun entry => entry.text ++ [',']

/-- Entries for other names are passed over when their defaults offer no value for the name. -/
theorem passes_entriesText {entries : List DefaultEntry} (hname : IsIdentifier name)
    (h : ∀ entry ∈ entries, entry.name ≠ name ∧ ¬ Offers entry.expression name) (t : Text) :
    Passes name (entriesText entries) t := by
  induction entries with
  | nil => exact passes_of_no_name hname (by simp [entriesText]) t
  | cons entry entries ih =>
    rw [List.forall_mem_cons] at h
    rw [entriesText, List.flatMap_cons, List.append_assoc]
    refine Passes.append ?_ (.append (passes_mark hname (by decide) _) (ih h.2))
    exact entry.passes_text hname h.1.1 h.1.2 (.inl rfl) _

/-! ## Objects of defaults -/

theorem any_getLast?_append {p : Char → Bool} (hs : s.getLast?.any p = false) (ht : t.getLast?.any p = false) :
    (s ++ t).getLast?.any p = false := by
  rw [List.getLast?_append]
  cases hlast : t.getLast? with
  | none => exact hs
  | some c => rwa [hlast] at ht

theorem any_joinsName_blank (blank : BlankText) : blank.1.getLast?.any joinsName = false := by
  cases hlast : blank.1.getLast? with
  | none => rfl
  | some c => exact joinsName_of_isBlank (allBlank_eq_true_iff.1 blank.2 c (List.mem_of_getLast? hlast))

theorem any_joinsName_entriesText (entries : List DefaultEntry) :
    (entriesText entries).getLast?.any joinsName = false := by
  induction entries with
  | nil => rfl
  | cons entry entries ih =>
    refine any_getLast?_append ?_ ih
    rw [List.getLast?_concat]
    decide

/-- An object that gives defaults to names, each name once. -/
structure DefaultsObject where
  /-- The blank characters in front. -/
  lead : BlankText
  /-- The entries. -/
  entries : List DefaultEntry
  /-- What stands behind a comma at the end, if there is one. -/
  tail : Option BlankText
  /-- The blank characters behind the object. -/
  behind : BlankText
  distinct : (entries.map DefaultEntry.name).Nodup

namespace DefaultsObject

variable {object : DefaultsObject} {front later : List DefaultEntry} {entry : DefaultEntry}

/-- Its text between the braces. -/
def body (object : DefaultsObject) : Text := listed (object.entries.map DefaultEntry.text) object.tail

/-- Its text. -/
def text (object : DefaultsObject) : Text :=
  object.lead.1 ++ '{' :: (object.body ++ '}' :: object.behind.1)

/-- The text of the object in front of the name of an entry that stands behind others. -/
def inFront (object : DefaultsObject) (front : List DefaultEntry) (entry : DefaultEntry) : Text :=
  object.lead.1 ++ '{' :: (entriesText front ++ entry.lead.1)

/-- From the name of an entry on the text goes up to a comma or the closing brace. -/
theorem exists_text_eq (hentries : object.entries = front ++ entry :: later) :
    ∃ d rest, (d = ',' ∨ d = '}') ∧ object.text = object.inFront front entry ++ (entry.fromName ++ d :: rest) := by
  have hbody : object.body = entriesText front ++
      join [','] (entry.text :: (later.map DefaultEntry.text ++ (object.tail.map Subtype.val).toList)) := by
    rw [body, hentries, listed, List.map_append, List.map_cons, List.append_assoc, List.cons_append,
      join_append_cons, List.flatMap_map, entriesText]
  cases hmore : later.map DefaultEntry.text ++ (object.tail.map Subtype.val).toList with
  | nil =>
    refine ⟨'}', object.behind.1, .inr rfl, ?_⟩
    rw [text, hbody, hmore, join_singleton, inFront, DefaultEntry.text]
    simp
  | cons part parts =>
    refine ⟨',', join [','] (part :: parts) ++ '}' :: object.behind.1, .inl rfl, ?_⟩
    rw [text, hbody, hmore, join_cons_cons, inFront, DefaultEntry.text]
    simp

theorem any_joinsName_inFront : (object.inFront front entry).getLast?.any joinsName = false := by
  rw [inFront, ← List.singleton_append]
  exact any_getLast?_append (any_joinsName_blank _) (any_getLast?_append (by decide)
    (any_getLast?_append (any_joinsName_entriesText front) (any_joinsName_blank _)))

theorem passes_inFront (hentries : object.entries = front ++ entry :: later)
    (h : ∀ e ∈ front, ¬ Offers e.expression entry.name) (t : Text) :
    Passes entry.name (object.inFront front entry) t := by
  have hname := entry.isName
  have hother : ∀ e ∈ front, e.name ≠ entry.name := by
    intro e he hsame
    have hdistinct := object.distinct
    rw [hentries, List.map_append, List.map_cons, List.nodup_append] at hdistinct
    exact hdistinct.2.2 e.name (List.mem_map_of_mem he) entry.name List.mem_cons_self hsame
  rw [inFront, ← List.singleton_append]
  exact (passes_blank hname _ _).append ((passes_mark hname (by decide) _).append
    ((passes_entriesText hname (fun e he => ⟨hother e he, h e he⟩) _).append (passes_blank hname _ _)))

/-- A value that is offered in front is read there. -/
theorem not_offers_of_none (h : ∀ x y, object.inFront front entry = x ++ y → y ≠ [] →
      valueHere? name x.getLast? (y ++ t) = none) : ∀ e ∈ front, ¬ Offers e.expression name := by
  rintro e he ⟨x, y, hxy, hjoins, hopen⟩
  obtain ⟨earlier, between, rfl⟩ := List.append_of_mem he
  have hne : y ≠ [] := hopen.ne_nil
  have hshape : object.inFront (earlier ++ e :: between) entry =
      (object.lead.1 ++ '{' :: (entriesText earlier ++ (e.lead.1 ++ (e.name ++ e.beforeColon.1))) ++ [':'] ++
        e.afterColon.1 ++ x) ++ (y ++ (e.behind.1 ++ ',' :: (entriesText between ++ entry.lead.1))) := by
    rw [inFront, entriesText, List.flatMap_append, List.flatMap_cons, DefaultEntry.text, DefaultEntry.fromName,
      hxy]
    simp [entriesText]
  refine valueHere?_ne_none_iff.2 ⟨?_, (hopen.append _).append t⟩ (h _ _ hshape (by simp [hne]))
  refine any_getLast?_append (any_getLast?_append ?_ (any_joinsName_blank _)) hjoins
  rw [List.getLast?_concat]
  decide

/-- **Where the default of an entry is read.** The value that is found for a name is read at the entry for it, and
is what the default stands for, exactly when no default in front offers a value for the name and this one is read
to its end. -/
theorem search_valueHere?_iff (hentries : object.entries = front ++ entry :: later) (value : Text) :
    (search (valueHere? entry.name) none object.text = some (object.inFront front entry, value) ∧
      IsValueOf entry.expression value) ↔
    (∀ e ∈ front, ¬ Offers e.expression entry.name) ∧ ReadsAs entry.expression value := by
  obtain ⟨d, rest, hd, htext⟩ := exists_text_eq hentries
  have hhere : valueHere? entry.name (object.inFront front entry).getLast? (entry.fromName ++ d :: rest) =
      valueAt? (entry.expression ++ (entry.behind.1 ++ d :: rest)) :=
    entry.valueHere?_fromName any_joinsName_inFront _
  rw [htext]
  constructor
  · rintro ⟨hsearch, hvalue⟩
    obtain ⟨u, hu, hread, hearlier⟩ := exists_of_search hsearch
    obtain rfl := List.append_cancel_left hu
    simp only [Option.or_none] at hread hearlier
    rw [hhere] at hread
    exact ⟨not_offers_of_none hearlier, (valueAt?_iff_readsAs entry.isExpression _ hd _).1 ⟨hread, hvalue⟩⟩
  · rintro ⟨hfront, hreads⟩
    obtain ⟨hread, hvalue⟩ := (valueAt?_iff_readsAs entry.isExpression entry.behind hd rest).2 hreads
    refine ⟨search_of_first_place (fun x y hxy hy => ?_) (hhere.trans hread), hvalue⟩
    have hpass := passes_inFront hentries hfront (entry.fromName ++ d :: rest) none x y hxy hy
    rwa [Option.or_none] at hpass

end DefaultsObject

/-! ## Calls of `withDefaults` -/

namespace DefaultsObject

theorem code_text (object : DefaultsObject) : Code true (· == ',') object.text := by
  have hentries : ∀ part ∈ object.entries.map DefaultEntry.text, Code true (· == ',') part := by
    intro part hpart
    obtain ⟨entry, -, rfl⟩ := List.mem_map.1 hpart
    exact entry.code_text
  exact code_blank_append object.lead
    (.block .curly (code_join isSeparator_comma (code_listed hentries object.tail)) (code_blank object.behind))

theorem not_blank_text (object : DefaultsObject) : object.text.allBlank = false :=
  not_blank_of_mem (c := '{') (by decide) (by simp [text])

end DefaultsObject

/-- A call of `withDefaults` that hands an object to the properties of a type. -/
structure DefaultsCall where
  /-- Blank characters in front of the parenthesis. -/
  beforeParenthesis : BlankText
  /-- Blank characters in front of `defineProps`. -/
  beforeProps : BlankText
  /-- The name of the type. -/
  typeName : Text
  /-- Blank characters in front of the comma. -/
  beforeComma : BlankText
  /-- The object of the defaults. -/
  object : DefaultsObject
  isName : IsIdentifier typeName

namespace DefaultsCall

variable (call : DefaultsCall)

/-- The first argument behind its blank characters: `defineProps` with the type. -/
def props : Text := "defineProps" ++ '<' :: (call.typeName ++ ('>' :: '(' :: ')' :: call.beforeComma.1))

theorem props_eq : call.props =
    "defineProps" ++ '<' :: (call.typeName ++ ('>' :: '(' :: ')' :: call.beforeComma.1)) := rfl

/-- The arguments. -/
def arguments : Text := join [','] [call.beforeProps.1 ++ call.props, call.object.text]

/-- Its text from the parenthesis on, with the text behind it. -/
def fromParenthesis (after : Text) : Text := '(' :: (call.arguments ++ ')' :: after)

/-- Its text, with the text behind it. -/
def text (after : Text) : Text := "withDefaults" ++ (call.beforeParenthesis.1 ++ call.fromParenthesis after)

theorem code_props : Code true (· == ',') call.props := by
  have hcall : Code true (· == ',') ('(' :: ')' :: call.beforeComma.1) :=
    .block .round .nil (code_blank call.beforeComma)
  have htype : Code true (· == ',') (call.typeName ++ ('>' :: '(' :: ')' :: call.beforeComma.1)) :=
    .inert_append (inert_of (by decide) call.isName.2) (.inert_append (a := ['>']) (by decide) hcall)
  exact .inert_append (by decide) (.inert_append (a := ['<']) (by decide) htype)

theorem code_arguments :
    ∀ part ∈ [call.beforeProps.1 ++ call.props, call.object.text], Code true (· == ',') part :=
  List.forall_mem_cons.2
    ⟨code_blank_append call.beforeProps call.code_props, List.forall_mem_singleton.2 call.object.code_text⟩

/-- The object is the second segment of the arguments. -/
theorem exists_segment : ∃ segment, (commaSegments call.arguments)[1]? = some segment ∧
    segment.text = call.object.text := by
  have hprops : allBlank (call.beforeProps.1 ++ call.props) = false :=
    not_blank_of_mem (c := '<') (by decide) (by simp [props_eq])
  have hsegments : (commaSegments call.arguments).map Segment.text =
      [call.beforeProps.1 ++ call.props, call.object.text] := by
    rw [commaSegments, arguments, map_text_splitTopLevel_join isSeparator_comma call.code_arguments,
      List.filter_eq_self]
    simp [hprops, call.object.not_blank_text]
  have hsecond := congrArg (fun texts => texts[1]?) hsegments
  rw [List.getElem?_map] at hsecond
  exact Option.map_eq_some_iff.1 hsecond

/-- The call is found at its place. -/
theorem withDefaultsCall?_text (h : before.any isWord = false) (after : Text) :
    withDefaultsCall? before (call.text after) = some (call.fromParenthesis after) := by
  have hboundary : boundary before (call.text after).head? = true := by
    show boundary before (some 'w') = true
    rw [boundary, h]
    decide
  have hcall : stripLeft (call.beforeParenthesis.1 ++ call.fromParenthesis after) = call.fromParenthesis after :=
    stripLeft_append_cons (by decide) _ _
  have hopen : dropPrefix? "(" (call.fromParenthesis after) = some (call.arguments ++ ')' :: after) :=
    dropPrefix?_append ['('] _
  have hprops : stripLeft (call.arguments ++ ')' :: after) = "defineProps" ++
      '<' :: (call.typeName ++ ('>' :: '(' :: ')' :: (call.beforeComma.1 ++ ',' :: (call.object.text ++
        ')' :: after)))) := by
    have hshape : call.arguments ++ ')' :: after = call.beforeProps.1 ++ ("defineProps" ++
        '<' :: (call.typeName ++ ('>' :: '(' :: ')' :: (call.beforeComma.1 ++ ',' :: (call.object.text ++
          ')' :: after))))) := by
      simp only [arguments, props_eq, join_cons_cons, join_singleton, List.append_assoc, List.cons_append,
        List.nil_append]
    rw [hshape]
    exact stripLeft_append_cons (by decide) _ _
  have htext : call.text after = "withDefaults" ++ (call.beforeParenthesis.1 ++ call.fromParenthesis after) := rfl
  rw [withDefaultsCall?, hboundary, htext, dropPrefix?_append]
  simp only [hcall, hopen, hprops, dropPrefix?_append, Option.bind_eq_bind, Option.bind_some, List.head?_cons]
  rfl

end DefaultsCall

/-- A script with a call of `withDefaults`, the first one of its kind. -/
structure DefaultsScript where
  /-- The script in front of the call. -/
  before : Text
  /-- The call. -/
  call : DefaultsCall
  /-- The script behind the call. -/
  after : Text
  no_word : before.getLast?.any isWord = false
  first : ∀ x y, before = x ++ y → y ≠ [] → withDefaultsCall? x.getLast? (y ++ call.text after) = none

namespace DefaultsScript

variable (script : DefaultsScript)

/-- Its text. -/
def text : Text := script.before ++ script.call.text script.after

/-- Defaults are looked for in the object. -/
theorem defaultsScope_text : defaultsScope script.text = script.call.object.text := by
  have hsearch : search withDefaultsCall? none script.text =
      some (script.before, script.call.fromParenthesis script.after) :=
    search_of_first_place script.first (script.call.withDefaultsCall?_text script.no_word script.after)
  have hblock : balancedBlock? (script.call.fromParenthesis script.after) =
      some (script.call.arguments, script.after) :=
    balancedBlock?_code (code_join isSeparator_comma script.call.code_arguments) .round script.after
  obtain ⟨segment, hsegment, htext⟩ := script.call.exists_segment
  rw [defaultsScope, hsearch]
  simp only [Option.bind_eq_bind, Option.bind_some, hblock, hsegment, htext]
  rfl

end DefaultsScript

/-! ## Properties with defaults -/

/-- **Defaults reach their properties.** Let a call of `withDefaults` outside of the interface give a default to the
name of a property. The value that is found for the name is read at that entry, and is what the default stands
for, exactly when no default in front offers a value for the name and this one is read to its end; then it is the
default of the property. -/
theorem default_of_entry {script value : Text} {located : Located} {outside : DefaultsScript}
    {front later : List DefaultEntry} {entry : DefaultEntry} (hblock : interfaceBlock? script = some located)
    (houtside : located.before ++ located.after = outside.text)
    (hentries : outside.call.object.entries = front ++ entry :: later) :
    ((search (valueHere? entry.name) none (defaultsScope outside.text) =
          some (outside.call.object.inFront front entry, value) ∧ IsValueOf entry.expression value) ↔
      (∀ e ∈ front, ¬ Offers e.expression entry.name) ∧ ReadsAs entry.expression value) ∧
    ((∀ e ∈ front, ¬ Offers e.expression entry.name) ∧ ReadsAs entry.expression value →
      ∀ property ∈ interfaceProperties script, property.name = entry.name → property.default = some value) := by
  have hiff := DefaultsObject.search_valueHere?_iff hentries value
  rw [outside.defaultsScope_text]
  refine ⟨hiff, fun hreads property hproperty hname => ?_⟩
  rw [interfaceProperties, hblock] at hproperty
  obtain ⟨member, -, rfl⟩ := List.mem_map.1 hproperty
  have hname : member.member.name = entry.name := hname
  have hassigned : assignedDefault? outside.call.object.text entry.name = some value := by
    rw [assignedDefault?, (hiff.2 hreads).1]
    rfl
  rw [houtside, outside.defaultsScope_text]
  show member.default? outside.call.object.text = some value
  rw [CommentedMember.default?, hname, hassigned]
  rfl

/-- A literal with a comma in it, a numeral, and a factory with a comma in its brackets. -/
def sampleDefaults : List DefaultEntry := [
  { lead := space, name := "label", beforeColon := noBlank, afterColon := space, expression := "'a, b'"
    behind := noBlank, isName := ⟨by decide, by decide⟩
    isExpression :=
      (KeyValue.literalDefault '\'' "a, b" (by decide) (.of_plain (by decide))).isExpression },
  { lead := space, name := "width", beforeColon := noBlank, afterColon := space, expression := "12"
    behind := noBlank, isName := ⟨by decide, by decide⟩
    isExpression := isExpression_of_letters (by decide) (by decide) },
  { lead := space, name := "rows", beforeColon := noBlank, afterColon := space, expression := "() => [1, 2]"
    behind := space, isName := ⟨by decide, by decide⟩
    isExpression := isExpression_factory }]

/-- A call that gives them to the properties of a type. -/
def sampleCall : DefaultsScript where
  before := "\n"
  call :=
    { beforeParenthesis := noBlank, beforeProps := noBlank, typeName := "XProps", beforeComma := noBlank
      object := { lead := space, entries := sampleDefaults, tail := none, behind := noBlank, distinct := by decide }
      isName := ⟨by decide, by decide⟩ }
  after := []
  no_word := by decide
  first := none_of_search (by decide +kernel)

/-- The members of the type. -/
def sampleMembers : Text := "\n  label: string\n  width: number\n  rows: number[]\n"

/-- The type and the call. -/
def sampleDeclaration : Text := "interface XProps " ++ '{' :: (sampleMembers ++ '}' :: sampleCall.text)

theorem interfaceBlock?_sampleDeclaration :
    interfaceBlock? sampleDeclaration = some ⟨sampleMembers, [], sampleCall.text⟩ := by
  decide +kernel

theorem default_of_sampleDefaults : (interfaceProperties sampleDeclaration).map Property.name =
      ["label".toList, "width".toList, "rows".toList] ∧
    ∀ property ∈ interfaceProperties sampleDeclaration, property.name = "width".toList →
      property.default = some "12".toList := by
  have hentries : sampleCall.call.object.entries =
      sampleDefaults.take 1 ++ sampleDefaults[1] :: sampleDefaults.drop 2 := rfl
  have hfront : ∀ e ∈ sampleDefaults.take 1, ¬ Offers e.expression "width" := by decide +kernel
  have hreads : ReadsAs "12" "12" := .plain (c := '1') (by decide) (by decide) (by decide) rfl
  refine ⟨by decide +kernel, ?_⟩
  exact (default_of_entry interfaceBlock?_sampleDeclaration rfl hentries).2 ⟨hfront, hreads⟩

/-- The factory is cut at the comma in its brackets. -/
theorem default_of_sampleFactory :
    (sampleDefaults[2].name, sampleDefaults[2].expression) = ("rows".toList, "() => [1, 2]".toList) ∧
    IsValueOf "() => [1, 2]" "() => [1, 2]" ∧
    ((interfaceProperties sampleDeclaration).filter fun property => property.name = "rows".toList).map
      Property.default = [some "() => [1".toList] := by
  refine ⟨rfl, .whole ?_, by decide +kernel⟩
  rintro contents ⟨quote, hquote, -, hshape⟩
  obtain ⟨rfl, -⟩ := List.cons.inj hshape
  exact absurd hquote (by decide)

end ComponentBook.AssignedDefault
