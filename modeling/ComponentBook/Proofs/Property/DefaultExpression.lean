import ComponentBook.Proofs.Property.EntryReading

/-! # Defaults and their quotes

A default that is one string literal stands for what is between its quotes, and any other default for itself
(**`IsValueOf`**). To take the quotes off, only the first and the last character of the default are looked
at, and so an expression that starts and ends with the same quote, but is not one literal, loses both
characters (**`isValueOf_unquote_iff`**). In the entries of a declaration object, whatever stands around
them, exactly these defaults are not given as they are written (**`objectProperties_defaultScript`**). -/

namespace ComponentBook.ObjectDeclaration

open Script Text

variable {t contents : Text}

/-! ## Quotes around an expression -/

/-- The text is one string literal, with `contents` between its quotes. -/
def IsLiteral (contents t : Text) : Prop :=
  ∃ quote, isQuote quote = true ∧ LiteralTail quote (contents ++ [quote]) ∧
    t = quote :: (contents ++ [quote])

/-- The text starts and ends with the same quote. -/
def HasEqualQuotes (t : Text) : Prop :=
  ∃ quote, isQuote quote = true ∧ t.head? = some quote ∧ t.getLast? = some quote

/-- What an expression stands for as a default. -/
inductive IsValueOf (t : Text) : Text → Prop where
  /-- One string literal stands for what is between its quotes. -/
  | contents {contents : Text} : IsLiteral contents t → IsValueOf t contents
  /-- Any other expression stands for itself. -/
  | whole : (∀ contents, ¬ IsLiteral contents t) → IsValueOf t t

theorem IsLiteral.hasEqualQuotes (h : IsLiteral contents t) : HasEqualQuotes t := by
  obtain ⟨quote, hquote, -, rfl⟩ := h
  refine ⟨quote, hquote, rfl, ?_⟩
  rw [← List.cons_append, List.getLast?_concat]

/-- A quote opens a literal, which is closed by another character. -/
theorem IsExpression.ne_singleton (h : IsExpression t) {quote : Char} (hquote : isQuote quote = true) :
    t ≠ [quote] := by
  rintro rfl
  obtain ⟨tail, rest, hnil, htail, -⟩ := h.code.exists_literal hquote
  obtain ⟨inner, rfl⟩ := htail.exists_concat
  simp at hnil

/-- An expression between equal quotes has a text between them. -/
theorem HasEqualQuotes.exists_inner (hexpr : IsExpression t) (h : HasEqualQuotes t) :
    ∃ quote inner, isQuote quote = true ∧ t = quote :: (inner ++ [quote]) := by
  obtain ⟨quote, hquote, hhead, hlast⟩ := h
  obtain ⟨rest, rfl⟩ := List.head?_eq_some_iff.1 hhead
  obtain rfl | ⟨inner, last, rfl⟩ := List.eq_nil_or_concat rest
  · exact absurd rfl (hexpr.ne_singleton hquote)
  · rw [List.concat_eq_append, ← List.cons_append, List.getLast?_concat] at hlast
    obtain rfl := Option.some.inj hlast
    exact ⟨last, inner, hquote, by rw [List.concat_eq_append]⟩

theorem unquote_of_not_hasEqualQuotes (hexpr : IsExpression t) (h : ¬ HasEqualQuotes t) : unquote t = t :=
  unquote_expression hexpr.trimmed fun quote hquote hhead hlast => h ⟨quote, hquote, hhead, hlast⟩

/-- An expression between equal quotes loses its first and its last character. -/
theorem length_unquote (hexpr : IsExpression t) (h : HasEqualQuotes t) :
    (unquote t).length + 2 = t.length := by
  obtain ⟨quote, inner, hquote, rfl⟩ := h.exists_inner hexpr
  rw [unquote_literal hquote hexpr.trimmed, List.length_cons, List.length_append, List.length_singleton]

/-- **Which defaults are read as what they stand for**: one string literal, and what does not start and end
with the same quote. -/
theorem isValueOf_unquote_iff (hexpr : IsExpression t) :
    IsValueOf t (unquote t) ↔ (∃ contents, IsLiteral contents t) ∨ ¬ HasEqualQuotes t := by
  constructor
  · intro h
    by_contra hno
    rw [not_or, not_not, not_exists] at hno
    obtain ⟨hliteral, hquotes⟩ := hno
    have hlength := length_unquote hexpr hquotes
    -- neither one literal nor the expression itself, which is longer
    generalize hvalue : unquote t = value at h hlength
    cases h with
    | contents h => exact hliteral _ h
    | whole => omega
  · rintro (⟨contents, hliteral⟩ | hquotes)
    · obtain ⟨quote, hquote, htail, rfl⟩ := hliteral
      rw [unquote_literal hquote hexpr.trimmed]
      exact .contents ⟨quote, hquote, htail, rfl⟩
    · rw [unquote_of_not_hasEqualQuotes hexpr hquotes]
      exact .whole fun contents hliteral => hquotes hliteral.hasEqualQuotes

/-! ## An object with a default -/

/-- An object that gives a default, and nothing else. -/
structure DefaultObject where
  /-- The default. -/
  expression : Text
  /-- Blank characters in front of the key. -/
  beforeKey : BlankText
  /-- Blank characters in front of the colon. -/
  beforeColon : BlankText
  /-- Blank characters behind the colon. -/
  afterColon : BlankText
  /-- Blank characters behind the default. -/
  behind : BlankText
  isExpression : IsExpression expression

/-- The text between its braces. -/
def DefaultObject.inside (object : DefaultObject) : Text :=
  object.beforeKey.1 ++ (Key.default.word ++ (object.beforeColon.1 ++ ':' :: (object.afterColon.1 ++
    (object.expression ++ object.behind.1))))

/-- Its text. -/
def DefaultObject.text (object : DefaultObject) : Text := '{' :: (object.inside ++ ['}'])

theorem DefaultObject.code_inside (object : DefaultObject) : Code true (· == ',') object.inside := by
  have hvalue : Code true (· == ',') object.expression :=
    object.isExpression.code.mono (by simp) fun _ h => h
  have hword : ∀ c ∈ Key.default.word, c ∉ specialChars ∧ (c == ',') = false := by decide
  exact code_blank_append object.beforeKey
    (.inert_append hword (code_behind_name object.beforeColon object.afterColon object.behind hvalue))

/-- The default is the value of its key, and no other key has a value. -/
theorem DefaultObject.keyValue?_inside (object : DefaultObject) (key : Key) :
    keyValue? key (leadingComments object.inside).2 =
      if Key.default = key then some object.expression else none := by
  obtain ⟨-, hne, htrim⟩ := object.isExpression
  have hlead : leadingComments object.inside = (object.beforeKey.1, Key.default.word ++
      (object.beforeColon.1 ++ ':' :: (object.afterColon.1 ++
        (object.expression ++ object.behind.1)))) := by
    refine leadingComments_of_blank object.beforeKey fun c hc => ?_
    obtain rfl := Option.some.inj hc
    decide
  have hword : Key.default.word.getLast?.any isWord = true := by decide
  rw [hlead, keyValue?, dropPrefix?_word]
  by_cases hkey : Key.default = key
  · subst hkey
    rw [if_pos rfl, if_pos rfl]
    simp only [boundary, head?_behind_name, hword, stripLeft_append_cons (c := ':') (by decide),
      Option.bind_eq_bind, Option.bind_some]
    simp [strip_between hne htrim object.afterColon.2 object.behind.2]
  · rw [if_neg hkey, if_neg hkey]
    rfl

theorem DefaultObject.not_blank_inside (object : DefaultObject) : object.inside.allBlank = false :=
  not_blank_of_mem (c := ':') (by decide) (by simp [DefaultObject.inside])

theorem DefaultObject.valueOf?_inside (object : DefaultObject) (key : Key) :
    valueOf? key object.inside = if Key.default = key then some object.expression else none := by
  have hvalue : valueOf? key (listed [object.inside] none) = [object.inside].findSome? (valueIn? key) :=
    valueOf?_parts (List.forall_mem_singleton.2 object.code_inside)
      (List.forall_mem_singleton.2 object.not_blank_inside) none key
  rw [List.findSome?_singleton, valueIn?, object.keyValue?_inside] at hvalue
  exact hvalue

theorem DefaultObject.readValue_text (object : DefaultObject) :
    readValue object.text = ("any".toList, some (unquote object.expression), false) := by
  rw [DefaultObject.text, readValue_braces (object.code_inside.mono id fun _ _ => rfl), readDefinition,
    object.valueOf?_inside, object.valueOf?_inside, object.valueOf?_inside]
  obtain ⟨c, t, hvalue⟩ := List.exists_cons_of_ne_nil object.isExpression.ne_nil
  rw [hvalue]
  rfl

theorem DefaultObject.strip_text (object : DefaultObject) : object.text.strip = object.text :=
  strip_braces object.inside

/-- A script with a declaration object in which one entry has an object with a default. -/
structure DefaultScript where
  /-- The text in front of the declaration. -/
  before : Text
  /-- The words in front of the object. -/
  opening : Opening
  /-- The entries in front of the one with the default. -/
  front : List WrittenEntry
  /-- An entry, with whose name and comment the default stands. -/
  entry : WrittenEntry
  /-- The object with the default, which stands in place of the value of the entry. -/
  object : DefaultObject
  /-- The entries behind it. -/
  later : List WrittenEntry
  /-- What stands behind a comma at the end of the object. -/
  tail : Option BlankText
  /-- The text behind the object. -/
  after : Text
  /-- The first word of the declaration is not the end of another one. -/
  no_word : before.getLast?.any isWord = false
  /-- No declaration object starts in front of it. -/
  first : ∀ x y, before = x ++ y → y ≠ [] → objectHere? x.getLast? (y ++ (opening.text ++ '{' ::
    (listed (front.map WrittenEntry.text ++ entry.withValue object.text :: later.map WrittenEntry.text)
      tail ++ '}' :: after))) = none

/-- The entries, one after another. -/
def DefaultScript.parts (script : DefaultScript) : List Text :=
  script.front.map WrittenEntry.text ++
    script.entry.withValue script.object.text :: script.later.map WrittenEntry.text

/-- Its text. -/
def DefaultScript.text (script : DefaultScript) : Text :=
  script.before ++ (script.opening.text ++ '{' :: (listed script.parts script.tail ++
    '}' :: script.after))

theorem DefaultScript.code_parts (script : DefaultScript) :
    ∀ part ∈ script.parts, Code true (· == ',') part := by
  rw [DefaultScript.parts, List.forall_mem_append, List.forall_mem_cons, List.forall_mem_map,
    List.forall_mem_map]
  have hobject : Code true (· == ',') script.object.text :=
    .block .curly (script.object.code_inside.mono id fun _ _ => rfl) .nil
  exact ⟨fun entry _ => entry.code_text, script.entry.code_withValue hobject,
    fun entry _ => entry.code_text⟩

theorem DefaultScript.not_blank_parts (script : DefaultScript) :
    ∀ part ∈ script.parts, allBlank part = false := by
  rw [DefaultScript.parts, List.forall_mem_append, List.forall_mem_cons, List.forall_mem_map,
    List.forall_mem_map]
  exact ⟨fun entry _ => entry.not_blank_withValue _, script.entry.not_blank_withValue _,
    fun entry _ => entry.not_blank_withValue _⟩

/-- **How a default is given.** Of an entry with an object that gives a default and nothing else, the
default is read as written without its quotes. It is what the expression stands for exactly when the
expression is one string literal, or does not start and end with the same quote. -/
theorem objectProperties_defaultScript (script : DefaultScript) :
    objectProperties script.text =
        script.front.map WrittenEntry.read ++
          script.entry.readAs ("any".toList, some (unquote script.object.expression), false) ::
            script.later.map WrittenEntry.read ∧
      (IsValueOf script.object.expression (unquote script.object.expression) ↔
        (∃ contents, IsLiteral contents script.object.expression) ∨
          ¬ HasEqualQuotes script.object.expression) := by
  refine ⟨?_, isValueOf_unquote_iff script.object.isExpression⟩
  have hentry : property? (script.entry.withValue script.object.text) =
      some (script.entry.readAs ("any".toList, some (unquote script.object.expression), false)) := by
    have hne : script.object.text ≠ [] := List.cons_ne_nil _ _
    rw [property?_withValue script.entry hne script.object.strip_text, script.object.readValue_text]
  have hread : property? ∘ WrittenEntry.text = some ∘ WrittenEntry.read := by
    funext entry
    exact property?_text entry
  refine (objectProperties_listed script.no_word script.first script.code_parts
    script.not_blank_parts).trans ?_
  rw [List.filterMap_append, List.filterMap_cons_some hentry, List.filterMap_map, List.filterMap_map,
    hread, List.filterMap_eq_map]

theorem isExpression_string : IsExpression "String" := isExpression_of_letters (by decide) (by decide)

theorem head?_string : ("String" : Text).head? ≠ some '{' := by decide

theorem isName_letter : IsName "x" := ⟨by decide, by decide⟩

theorem isQuote_none : ∀ q, (none : Option Char) = some q → q = '\'' ∨ q = '"' := by decide

/-- A shorthand without quotes. -/
def plainEntry : WrittenEntry where
  lead := ⟨space, none⟩
  quote := none
  name := "x"
  beforeColon := noBlank
  afterColon := space
  value := .shorthand "String" isExpression_string head?_string
  behind := space
  isName := isName_letter
  isQuote := isQuote_none

theorem literalTail_letter (c : Char) (h : c ≠ '\\' ∧ c ≠ '\'' ∧ c ≠ '\n') :
    LiteralTail '\'' [c, '\''] :=
  .char h.1 h.2.1 (fun hline => absurd hline h.2.2) .close

/-- Two literals with an operator between them. -/
theorem isExpression_sum : IsExpression "'a' + 'b'" := by
  have hliteral (c : Char) (h : c ≠ '\\' ∧ c ≠ '\'' ∧ c ≠ '\n') :
      Code false (· == ',') ['\'', c, '\''] :=
    (KeyValue.literalDefault '\'' [c] (by decide) (literalTail_letter c h)).isExpression.code
  have hcode : Code false (· == ',') ("'a'".toList ++ (" + ".toList ++ "'b'".toList)) :=
    (hliteral 'a' (by decide)).append (.inert_append (by decide) (hliteral 'b' (by decide)))
      (apart_of_getLast? (by decide))
  exact ⟨hcode, by decide, by decide⟩

/-- The first of the literals is closed in front of the operator. -/
theorem not_isLiteral_sum (contents : Text) : ¬ IsLiteral contents "'a' + 'b'" := by
  rintro ⟨quote, hquote, htail, hshape⟩
  obtain ⟨hhead, hrest⟩ := List.cons.inj hshape
  subst hhead
  have hclosed := literalTail_append_of (by decide) htail []
  rw [← hrest] at hclosed
  revert hclosed
  decide

/-- A literal with a quote inside it. -/
theorem literalTail_escaped : LiteralTail '\'' "it\\'s'" :=
  .char (by decide) (by decide) (by decide) (.char (by decide) (by decide) (by decide)
    (.escape '\'' (literalTail_letter 's' (by decide))))

theorem isExpression_escaped : IsExpression "'it\\'s'" :=
  (KeyValue.literalDefault '\'' "it\\'s" (by decide) literalTail_escaped).isExpression

/-- A literal as default. -/
def literalScript : DefaultScript where
  before := "export default \x7b "
  opening := .property noBlank space
  front := []
  entry := plainEntry
  object := ⟨"'it\\'s'", space, noBlank, space, space, isExpression_escaped⟩
  later := [plainEntry]
  tail := none
  after := " \x7d"
  no_word := by decide
  first := none_of_search (by decide)

/-- Its quotes are taken off. -/
theorem objectProperties_literalScript :
    literalScript.text =
        "export default \x7b props: \x7b x: \x7b default: 'it\\'s' \x7d , x: String \x7d \x7d".toList ∧
      objectProperties literalScript.text = [⟨"x", "any", false, some "it\\'s", "", "options"⟩,
        ⟨"x", "String", false, none, "", "options"⟩] ∧
      IsValueOf "'it\\'s'" "it\\'s" := by
  obtain ⟨hread, hvalue⟩ := objectProperties_defaultScript literalScript
  exact ⟨by decide, hread, hvalue.2 (.inl ⟨"it\\'s", '\'', by decide, literalTail_escaped, rfl⟩)⟩

/-- Two literals with an operator between them as default. -/
def sumScript : DefaultScript :=
  { literalScript with
    object := ⟨"'a' + 'b'", space, noBlank, space, space, isExpression_sum⟩
    later := []
    first := none_of_search (by decide) }

/-- The first quote and the last one are taken off, though they belong to different literals. -/
theorem not_isValueOf_sumScript :
    sumScript.text = "export default \x7b props: \x7b x: \x7b default: 'a' + 'b' \x7d \x7d \x7d".toList ∧
      objectProperties sumScript.text = [⟨"x", "any", false, some "a' + 'b", "", "options"⟩] ∧
      ¬ IsValueOf "'a' + 'b'" "a' + 'b" := by
  obtain ⟨hread, hvalue⟩ := objectProperties_defaultScript sumScript
  refine ⟨by decide, hread, fun h => ?_⟩
  rcases hvalue.1 h with ⟨contents, hliteral⟩ | hquotes
  · exact not_isLiteral_sum contents hliteral
  · exact hquotes ⟨'\'', by decide, rfl, rfl⟩

end ComponentBook.ObjectDeclaration
