import ComponentBook.Component.Usage
import ComponentBook.Proofs.Markup.Attributes
import ComponentBook.Proofs.Property.WrittenObject

/-! # Usage examples that are read as templates

A usage example is an opening tag, with the content of a slot and a closing tag behind it when the component
takes content (**`usageExample_eq`**). The values that it gives are words of plain characters or texts in
double quotes on one line, in every language (**`isAttributeValue_exampleValue`**), so that a template's
tokenizer finds these tags and nothing else, with the attributes as they were given
(**`exists_showsUsage`**). A slash ends the opening tag of a component without content only; but a tag whose
element is never closed counts as closed without one (`not_exists_opening_void`). -/

namespace ComponentBook

open Markup Text

variable {hasSlot : Bool} {locale : Locale} {name t : Text} {ps : List Property}

/-! ## Names -/

/-- A name that a tag may have: a letter, and characters of names. -/
structure IsElementName (name : Text) : Prop where
  head : name.head?.any isLetter = true
  chars : ∀ c ∈ name, isNameChar c = true

/-- A name of characters of identifiers and hyphens. -/
structure IsPropertyName (name : Text) : Prop where
  ne_nil : name ≠ []
  chars : ∀ c ∈ name, (ObjectDeclaration.isIdentifierChar c || c = '-') = true

theorem IsElementName.not_break (h : IsElementName name) {c : Char} (hc : c ∈ name) : isLineBreak c = false := by
  rw [Bool.eq_false_iff]
  intro hbreak
  have hname := isNameChar_eq_false_of_attrs (.inl (isBlank_of_isLineBreak hbreak))
  rw [h.chars c hc] at hname
  cases hname

theorem IsPropertyName.isPlainChar (h : IsPropertyName name) {c : Char} (hc : c ∈ name) :
    isPlainChar c = true := by
  have hchar := h.chars c hc
  have hblank := ObjectDeclaration.not_blank_of_name hchar
  have hne {d : Char} (hd : (ObjectDeclaration.isIdentifierChar d || d = '-') = false) : c ≠ d := by
    rintro rfl
    rw [hd] at hchar
    cases hchar
  refine isPlainChar_iff.2 ⟨hblank, not_or.2 ⟨hne ?_, hne ?_⟩, hne ?_, hne ?_, hne ?_⟩ <;> decide

/-! ## Values -/

/-- A text that double quotes may stand around on one line. -/
def IsQuotable (t : Text) : Prop := ∀ c ∈ t, c ≠ '"' ∧ isLineBreak c = false

instance (t : Text) : Decidable (IsQuotable t) :=
  inferInstanceAs (Decidable (∀ c ∈ t, c ≠ '"' ∧ isLineBreak c = false))

theorem IsQuotable.append {s : Text} (hs : IsQuotable s) (ht : IsQuotable t) : IsQuotable (s ++ t) :=
  List.forall_mem_append.2 ⟨hs, ht⟩

theorem IsQuotable.isAttributeValue (h : IsQuotable t) : IsAttributeValue (doubleQuoted t) :=
  .quoted (.inl rfl) (fun hmem => (h _ hmem).1 rfl) fun _ hc => (h _ hc).2

theorem IsPropertyName.isQuotable (h : IsPropertyName name) : IsQuotable name := fun _ hc =>
  have hplain := h.isPlainChar hc
  ⟨fun he => (isPlainChar_iff.1 hplain).2.1 (.inl he), not_break_of_isPlainChar hplain⟩

/-- What stands around a name in a value. -/
def Phrase.IsQuotable (phrase : Phrase) : Prop :=
  ComponentBook.IsQuotable phrase.before ∧ ComponentBook.IsQuotable phrase.after

instance (phrase : Phrase) : Decidable phrase.IsQuotable := inferInstanceAs (Decidable (_ ∧ _))

theorem Phrase.IsQuotable.fill {phrase : Phrase} (h : phrase.IsQuotable) (ht : ComponentBook.IsQuotable t) :
    ComponentBook.IsQuotable (phrase.fill t) :=
  (h.1.append ht).append h.2

theorem isQuotable_phrases : ∀ locale ∈ Locale.all, locale.namedValue.IsQuotable ∧
    IsQuotable locale.messageValue ∧ locale.stringValue.IsQuotable ∧ locale.otherValue.IsQuotable := by decide

theorem isQuotable_stringValue (hlocale : locale ∈ Locale.all) (hname : IsPropertyName name) :
    IsQuotable (stringValue locale name) := by
  obtain ⟨hnamed, hmessage, hstring, -⟩ := isQuotable_phrases locale hlocale
  unfold stringValue
  split_ifs
  · decide
  · exact hnamed.fill hname.isQuotable
  · exact hmessage
  · exact hstring.fill hname.isQuotable

theorem isAttributeValue_of_plain (hne : t ≠ []) (h : (t.all isPlainChar) = true) : IsAttributeValue t :=
  .plain hne (List.all_eq_true.1 h)

theorem isAttributeValue_numberValue (name : Text) : IsAttributeValue (numberValue name) := by
  unfold numberValue
  split_ifs <;> exact isAttributeValue_of_plain (by decide) (by decide)

/-- **Every value can be written as an attribute**, whatever the type of the property. -/
theorem isAttributeValue_exampleValue (hlocale : locale ∈ Locale.all) {p : Property}
    (hname : IsPropertyName p.name) : IsAttributeValue (exampleValue locale p) := by
  rw [exampleValue]
  generalize ValueKind.ofType p.type = kind
  cases kind with
  | string => exact (isQuotable_stringValue hlocale hname).isAttributeValue
  | number => exact isAttributeValue_numberValue p.name
  | boolean => exact isAttributeValue_of_plain (t := "true") (by decide) (by decide)
  | array => exact isAttributeValue_of_plain (t := "[]") (by decide) (by decide)
  | object => exact isAttributeValue_of_plain (t := "\x7b\x7d") (by decide) (by decide)
  | other => exact ((isQuotable_phrases locale hlocale).2.2.2.fill hname.isQuotable).isAttributeValue

/-! ## The tags of an example -/

/-- The names and the values that an example gives. -/
def usageAttributes (locale : Locale) (ps : List Property) : List (Text × Text) :=
  (ps.filter fun p => !p.omissible).map fun p => (p.name, exampleValue locale p)

/-- What stands in front of each of `n` attributes. -/
def usageGap (n : Nat) : Text := if n ≤ maxInlineAttributes then [' '] else ['\n', ' ', ' ']

/-- What stands between `n` attributes and the slash or the bracket that ends the tag. -/
def usageBreak (n : Nat) (hasSlot : Bool) : Text :=
  if n ≤ maxInlineAttributes then if hasSlot then [] else [' '] else ['\n']

/-- The tag that opens an example. -/
def openingTag (locale : Locale) (name : Text) (ps : List Property) (hasSlot : Bool) : Tag where
  closing := false
  name := name
  attrs :=
    let pairs := usageAttributes locale ps
    attributesText (usageGap pairs.length) pairs ++
      (usageBreak pairs.length hasSlot ++ if hasSlot then [] else ['/'])

/-- The tag that closes an example. -/
def closingTag (name : Text) : Tag where
  closing := true
  name := name
  attrs := []

/-- The content that stands between the tags, on a line of its own. -/
def slotLine (locale : Locale) : Text := "\n  " ++ (locale.slotContent ++ "\n")

theorem exampleAttributes_eq (locale : Locale) (ps : List Property) :
    exampleAttributes locale ps = (usageAttributes locale ps).map attributeText := by
  rw [exampleAttributes, usageAttributes, List.map_map]
  rfl

theorem length_usageAttributes (locale : Locale) (ps : List Property) :
    (usageAttributes locale ps).length = (ps.filter fun p => !p.omissible).length :=
  List.length_map _

theorem allBlank_usageGap (n : Nat) : (usageGap n).allBlank = true ∧ usageGap n ≠ [] := by
  unfold usageGap
  split_ifs <;> decide

theorem allBlank_usageBreak (n : Nat) (hasSlot : Bool) : (usageBreak n hasSlot).allBlank = true := by
  unfold usageBreak
  split_ifs <;> decide

/-- **An example is made of its tags** and the content between them. -/
theorem usageExample_eq (locale : Locale) (name : Text) (ps : List Property) (hasSlot : Bool) :
    usageExample locale name ps hasSlot = (openingTag locale name ps hasSlot).text ++
      if hasSlot then slotLine locale ++ (closingTag name).text else [] := by
  have hinline (ls : List (Text × Text)) :
      (ls.map attributeText).flatMap (fun a => ' ' :: a) = attributesText [' '] ls := by
    rw [List.flatMap_map]
    rfl
  have hbroken (ls : List (Text × Text)) :
      (ls.map attributeText).flatMap (fun a => "\n  ".toList ++ a) = attributesText ['\n', ' ', ' '] ls := by
    rw [List.flatMap_map]
    rfl
  rw [usageExample, exampleAttributes_eq, openUsage, List.length_map, hinline, hbroken]
  simp only [openingTag, usageGap, usageBreak]
  cases hasSlot <;> by_cases hfew : (usageAttributes locale ps).length ≤ maxInlineAttributes <;>
    simp [hfew, Tag.text, closingTag, slotLine]

/-! ## Reading an example -/

theorem isAttribute_usageAttributes (hlocale : locale ∈ Locale.all) (hps : ∀ p ∈ ps, IsPropertyName p.name) :
    ∀ pair ∈ usageAttributes locale ps, IsAttribute pair := by
  intro pair hpair
  obtain ⟨p, hp, rfl⟩ := List.mem_map.1 hpair
  have hname := hps p (List.mem_of_mem_filter hp)
  exact ⟨hname.ne_nil, fun _ => hname.isPlainChar, isAttributeValue_exampleValue hlocale hname⟩

/-- A blank character stands behind the attributes, in front of the slash. -/
theorem head_usageBreak (n : Nat) (hasSlot : Bool) {c : Char}
    (hc : (usageBreak n hasSlot ++ if hasSlot then [] else ['/']).head? = some c) : isBlank c = true := by
  unfold usageBreak at hc
  split_ifs at hc <;> cases hc <;> decide

theorem isWritten_openingTag (hlocale : locale ∈ Locale.all) (hname : IsElementName name)
    (hps : ∀ p ∈ ps, IsPropertyName p.name) : (openingTag locale name ps hasSlot).IsWritten where
  name_head := hname.head
  name_chars := hname.chars
  attrs_head c hc := by
    obtain ⟨hgap, hne⟩ := allBlank_usageGap (usageAttributes locale ps).length
    exact .inl (head_blank_attributesText hgap hne (fun _ => head_usageBreak _ _) c hc)
  attrs := by
    have hpairs := attributes_attributesText (allBlank_usageGap (usageAttributes locale ps).length).1
      (isAttribute_usageAttributes hlocale hps)
    have hslash : Attributes (if hasSlot then [] else ['/']) := by
      split_ifs
      · exact .nil
      · exact .char (by decide) (by decide) .nil
    exact hpairs.append ((attributes_blank (allBlank_usageBreak _ hasSlot)).append hslash)

theorem isWritten_closingTag (hname : IsElementName name) : (closingTag name).IsWritten :=
  ⟨hname.head, hname.chars, fun _ hc => (by cases hc), .nil⟩

theorem not_mem_slotLine : ∀ locale ∈ Locale.all, '<' ∉ slotLine locale := by decide

/-- The tokens of a text, each with the text in front of it. -/
def placedTokens (t : Text) : List (Text × Token) :=
  (occurrences sizedToken? t).map fun found => (found.1, found.2.1)

/-- The tokenizer finds the tags of an example and nothing else. -/
theorem placedTokens_usageExample (hlocale : locale ∈ Locale.all) (hname : IsElementName name)
    (hps : ∀ p ∈ ps, IsPropertyName p.name) :
    placedTokens (usageExample locale name ps hasSlot) =
      ([], .tag (openingTag locale name ps hasSlot)) ::
        if hasSlot then [(slotLine locale, .tag (closingTag name))] else [] := by
  rw [usageExample_eq, placedTokens,
    occurrences_of_here advances_sizedToken? (sizedToken?_tag (isWritten_openingTag hlocale hname hps) _)]
  cases hasSlot with
  | false =>
    rw [if_neg Bool.false_ne_true, if_neg Bool.false_ne_true, advances_sizedToken?.occurrences_nil]
    rfl
  | true =>
    have hclosing : sizedToken? ((closingTag name).text) =
        some ((.tag (closingTag name), (closingTag name).text.length), []) := by
      simpa using sizedToken?_tag (isWritten_closingTag hname) []
    -- no token starts in the line of the slot
    have hslot : ∀ x y, slotLine locale = x ++ y → y ≠ [] → sizedToken? (y ++ (closingTag name).text) = none := by
      intro x y hxy hy
      obtain ⟨c, y, rfl⟩ := List.exists_cons_of_ne_nil hy
      refine sizedToken?_eq_none fun hhead => ?_
      obtain rfl : c = '<' := Option.some.inj hhead
      exact not_mem_slotLine locale hlocale (by simp [hxy])
    rw [if_pos rfl, if_pos rfl, occurrences_append advances_sizedToken? hslot,
      occurrences_of_here advances_sizedToken? hclosing, advances_sizedToken?.occurrences_nil, behind,
      List.append_nil]
    rfl

/-- The attributes of an example are read as they were given. -/
theorem readAttributes_openingTag (hlocale : locale ∈ Locale.all) (hps : ∀ p ∈ ps, IsPropertyName p.name) :
    readAttributes (openingTag locale name ps hasSlot).attrs = usageAttributes locale ps := by
  obtain ⟨hgap, hne⟩ := allBlank_usageGap (usageAttributes locale ps).length
  refine readAttributes_attributesText hgap hne (isAttribute_usageAttributes hlocale hps)
    (fun _ => head_usageBreak _ _) ?_
  unfold usageBreak
  split_ifs <;> decide

/-- A slash ends the opening tag of a component without content only. -/
theorem endsWith_slash_openingTag (hlocale : locale ∈ Locale.all) (hps : ∀ p ∈ ps, IsPropertyName p.name) :
    (openingTag locale name ps hasSlot).attrs.stripRight.endsWith ['/'] = !hasSlot := by
  cases hasSlot with
  | false =>
    simp only [openingTag, if_neg Bool.false_ne_true, ← List.append_assoc]
    exact endsWith_slash _
  | true =>
    simp only [openingTag, if_pos, List.append_nil]
    exact not_endsWith_slash_attributesText (isAttribute_usageAttributes hlocale hps) (allBlank_usageBreak _ true)

/-! ## The lines of an example -/

/-- Few attributes leave the tag on one line. -/
theorem lines_openingTag_of_few (hlocale : locale ∈ Locale.all) (hname : IsElementName name)
    (hps : ∀ p ∈ ps, IsPropertyName p.name) (hfew : (usageAttributes locale ps).length ≤ maxInlineAttributes) :
    (openingTag locale name ps hasSlot).text.lines = [(openingTag locale name ps hasSlot).text] := by
  have hpairs : ∀ c ∈ attributesText [' '] (usageAttributes locale ps), isLineBreak c = false := by
    intro c hc
    obtain ⟨pair, hpair, hc⟩ := List.mem_flatMap.1 hc
    rcases List.mem_cons.1 hc with rfl | hc
    · decide
    · exact (isAttribute_usageAttributes hlocale hps pair hpair).not_break c hc
  have hend : ∀ c ∈ (if hasSlot then [] else [' ']) ++ (if hasSlot then [] else ['/']) ++ ['>'],
      isLineBreak c = false := by
    cases hasSlot <;> decide
  refine map_fst_brokenLinesAfter_of_no_break [] _ (List.cons_ne_nil _ _) fun c hc => ?_
  simp only [Tag.text, openingTag, usageGap, usageBreak, if_pos hfew, if_neg Bool.false_ne_true, List.nil_append,
    List.append_assoc, List.mem_cons, List.mem_append] at hc hend
  rcases hc with rfl | hc | hc | hc
  · decide
  · exact hname.not_break hc
  · exact hpairs c hc
  · exact hend c hc

/-- More attributes stand on one line each, between the name and the end of the tag. -/
theorem lines_openingTag_of_many (hlocale : locale ∈ Locale.all) (hname : IsElementName name)
    (hps : ∀ p ∈ ps, IsPropertyName p.name)
    (hmany : ¬ (usageAttributes locale ps).length ≤ maxInlineAttributes) :
    (openingTag locale name ps hasSlot).text.lines =
      ('<' :: name) :: ((usageAttributes locale ps).map fun pair => ' ' :: ' ' :: attributeText pair) ++
        [if hasSlot then ['>'] else ['/', '>']] := by
  have hlines : ∀ line ∈ ('<' :: name) ::
      ((usageAttributes locale ps).map fun pair => ' ' :: ' ' :: attributeText pair),
      ∀ c ∈ line, isLineBreak c = false := by
    refine List.forall_mem_cons.2 ⟨List.forall_mem_cons.2 ⟨by decide, fun c => hname.not_break⟩, ?_⟩
    rw [List.forall_mem_map]
    intro pair hpair
    refine List.forall_mem_cons.2 ⟨by decide, List.forall_mem_cons.2 ⟨by decide, ?_⟩⟩
    exact (isAttribute_usageAttributes hlocale hps pair hpair).not_break
  have htext : (openingTag locale name ps hasSlot).text =
      ((('<' :: name) :: ((usageAttributes locale ps).map fun pair => ' ' :: ' ' :: attributeText pair)).flatMap
        fun line => line ++ ['\n']) ++ if hasSlot then ['>'] else ['/', '>'] := by
    rw [← append_flatMap_newline, List.flatMap_map]
    cases hasSlot <;> simp [Tag.text, openingTag, usageGap, usageBreak, hmany, attributesText]
  rw [htext, lines_flatMap_newline hlines]
  cases hasSlot <;> rfl

/-! ## What an example shows -/

/-- What an example shows: `opening` is the tag that opens it, and `kept` holds of the properties that it
mentions. -/
structure ShowsUsage (locale : Locale) (name : Text) (ps : List Property) (hasSlot : Bool) (opening : Tag)
    (kept : Property → Bool) : Prop where
  /-- The tokenizer finds the opening tag and, behind the content of a slot, the closing tag. -/
  tokens : placedTokens (usageExample locale name ps hasSlot) =
    ([], .tag opening) :: if hasSlot then [(slotLine locale, .tag (closingTag name))] else []
  /-- Nothing else stands in the example. -/
  text_eq : usageExample locale name ps hasSlot =
    opening.text ++ if hasSlot then slotLine locale ++ (closingTag name).text else []
  isOpening : opening.closing = false ∧ opening.name = name
  /-- A slash ends the opening tag of a component without content only. -/
  slash : opening.attrs.stripRight.endsWith ['/'] = !hasSlot
  /-- Without a slash a tag is closed if its element is never closed. -/
  selfClosing : opening.selfClosing = (!hasSlot || voidElements.contains name)
  /-- The attributes are those of the properties that the example mentions, in their order. -/
  attributes : readAttributes opening.attrs = (ps.filter kept).map fun p => (p.name, exampleValue locale p)
  /-- A property that is required or has no default is mentioned. -/
  kept_of_needed : ∀ p ∈ ps, p.required = true ∨ p.default = none → kept p = true
  /-- An optional property with a default that is not empty is not mentioned. -/
  not_kept : ∀ p ∈ ps, p.required = false → ∀ d, p.default = some d → d ≠ [] → kept p = false
  /-- Up to three attributes stand on the line of the tag. -/
  lines_few : (ps.filter kept).length ≤ 3 → opening.text.lines = [opening.text]
  /-- More attributes stand on one line each. -/
  lines_many : 3 < (ps.filter kept).length → opening.text.lines =
    ('<' :: name) ::
      ((ps.filter kept).map fun p => ' ' :: ' ' :: attributeText (p.name, exampleValue locale p)) ++
      [if hasSlot then ['>'] else ['/', '>']]

/-- **An example reads as the tags of its component**, with the values of the properties that it mentions as
attributes. -/
theorem exists_showsUsage (hlocale : locale ∈ Locale.all) (hname : IsElementName name)
    (hps : ∀ p ∈ ps, IsPropertyName p.name) (hasSlot : Bool) :
    ∃ opening kept, ShowsUsage locale name ps hasSlot opening kept := by
  have hslash : (openingTag locale name ps hasSlot).attrs.stripRight.endsWith ['/'] = !hasSlot :=
    endsWith_slash_openingTag hlocale hps
  refine ⟨openingTag locale name ps hasSlot, fun p => !p.omissible, ?_⟩
  exact {
    tokens := placedTokens_usageExample hlocale hname hps
    text_eq := usageExample_eq locale name ps hasSlot
    isOpening := ⟨rfl, rfl⟩
    slash := hslash
    selfClosing := by rw [Tag.selfClosing, hslash]; rfl
    attributes := readAttributes_openingTag hlocale hps
    kept_of_needed := by
      rintro p - (hrequired | hdefault)
      · simp [Property.omissible, hrequired]
      · simp [Property.omissible, hdefault]
    not_kept := by
      intro p _ hrequired d hdefault hd
      simp [Property.omissible, hrequired, hdefault, hd]
    lines_few := by
      intro hfew
      rw [← length_usageAttributes] at hfew
      exact lines_openingTag_of_few hlocale hname hps hfew
    lines_many := by
      intro hmany
      rw [← length_usageAttributes] at hmany
      have hmany : ¬ (usageAttributes locale ps).length ≤ maxInlineAttributes := Nat.not_le.2 hmany
      rw [lines_openingTag_of_many hlocale hname hps hmany, usageAttributes, List.map_map]
      rfl }

/-- The properties of a card: one of them is optional and has a default. -/
def cardProperties : List Property :=
  [{ name := "title", type := "string", required := true },
    { name := "max-rows", type := "Number", default := some "3" },
    { name := "items", type := "Array<string>", required := true, default := some "[]" },
    { name := "$ref", type := "Ref" },
    { name := "isOpen", type := "boolean" }]

theorem showsUsage_card : (∀ p ∈ cardProperties, IsPropertyName p.name) ∧
    ∃ opening kept, ShowsUsage .chinese "Base.Card" cardProperties true opening kept := by
  have hps : ∀ p ∈ cardProperties, IsPropertyName p.name := by
    simp only [cardProperties, List.forall_mem_cons]
    refine ⟨⟨?_, ?_⟩, ⟨?_, ?_⟩, ⟨?_, ?_⟩, ⟨?_, ?_⟩, ⟨?_, ?_⟩, List.forall_mem_nil _⟩ <;> decide
  have hlocale : Locale.chinese ∈ Locale.all := List.mem_cons_of_mem _ List.mem_cons_self
  exact ⟨hps, exists_showsUsage hlocale ⟨by decide, by decide⟩ hps true⟩

/-- The tag that opens the example of a component with the name of an element that is never closed counts as
closed, though content follows it. -/
theorem not_exists_opening_void : IsElementName "br" ∧
    ¬ ∃ opening : Tag, opening.closing = false ∧ opening.selfClosing = false ∧
      placedTokens (usageExample .english "br" [] true) =
        [([], .tag opening), (slotLine .english, .tag (closingTag "br"))] := by
  have hname : IsElementName "br" := ⟨by decide, by decide⟩
  refine ⟨hname, ?_⟩
  rintro ⟨opening, -, hopen, htokens⟩
  rw [placedTokens_usageExample List.mem_cons_self hname (List.forall_mem_nil _)] at htokens
  obtain ⟨hfirst, -⟩ := List.cons.inj htokens
  obtain rfl : openingTag .english "br" [] true = opening := Token.tag.inj (Prod.mk.inj hfirst).2
  exact absurd hopen (by decide)

end ComponentBook
