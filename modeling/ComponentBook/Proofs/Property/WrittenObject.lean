import ComponentBook.Property.ObjectDeclaration
import ComponentBook.Proofs.Script.DocComment
import ComponentBook.Proofs.Text.Caseless

/-! # Declaration objects as they are written

A declaration object is written as entries with commas between them. An entry is a name with an expression
as type (**`WrittenValue.shorthand`**) or with an object that may give type, default and required mark
(**`WrittenValue.definition`**); blank characters and a documentation comment may stand in front of an entry
or a key (**`Lead`**). What is written is code (`WrittenEntry.code_text`), so that the scans of a script go
through. -/

namespace ComponentBook.ObjectDeclaration

open Script Text
open Script.DocComment (IsDocText written commentBefore? prose)

variable {k : Bool} {isSeparator : Char → Bool} {a b t name : Text}

/-! ## The shape of a declaration -/

/-- An expression that stands as a value: it is not empty, starts and ends with characters that are not
blank, has no comments, and its commas stand in brackets and string literals. -/
structure IsExpression (t : Text) : Prop where
  code : Code false (· == ',') t
  ne_nil : t ≠ []
  trimmed : t.strip = t

/-- An identifier in which hyphens may stand. -/
def IsName (name : Text) : Prop :=
  name.head?.any isIdentifierStart = true ∧ ∀ c ∈ name, (isIdentifierChar c || c = '-') = true

/-- What stands in front of an entry or a key: blank characters and maybe a documentation comment with
blank characters behind it. -/
structure Lead where
  /-- Blank characters. -/
  blank : BlankText
  /-- The text of a documentation comment, and the blank characters behind the comment. -/
  comment : Option ({t : Text // IsDocText t} × BlankText) := none

/-- Its text. -/
def Lead.text (lead : Lead) : Text :=
  lead.blank.1 ++ match lead.comment with
    | none => []
    | some (comment, blank) => written comment.1 ++ blank.1

/-- The text of the comment as one line. -/
def Lead.description (lead : Lead) : Text :=
  match lead.comment with
  | none => []
  | some (comment, _) => prose comment.1

/-- What is found of the comment: nothing when its text ends in the opening of a comment. -/
def Lead.found (lead : Lead) : Text :=
  match lead.comment with
  | none => []
  | some (comment, _) => if "/*".toList <:+ comment.1 then [] else prose comment.1

/-- The value of a key in an entry's object. -/
inductive KeyValue where
  /-- The type. -/
  | type (t : Text) (h : IsExpression t)
  /-- A string literal as default: the quote and what stands between the quotes. -/
  | literalDefault (quote : Char) (contents : Text) (hquote : isQuote quote = true)
      (h : LiteralTail quote (contents ++ [quote]))
  /-- Another default, which does not start and end with the same quote. -/
  | default (t : Text) (h : IsExpression t)
      (hquotes : ∀ quote, isQuote quote = true → t.head? = some quote → t.getLast? ≠ some quote)
  /-- The required mark. -/
  | required (value : Bool)

/-- The key. -/
def KeyValue.key : KeyValue → Key
  | .type _ _ => .type
  | .literalDefault _ _ _ _ => .default
  | .default _ _ _ => .default
  | .required _ => .required

/-- The text of the value. -/
def KeyValue.text : KeyValue → Text
  | .type t _ => t
  | .literalDefault quote contents _ _ => quote :: (contents ++ [quote])
  | .default t _ _ => t
  | .required value => if value then "true" else "false"

/-- The type that it gives. -/
def KeyValue.type? : KeyValue → Option Text
  | .type t _ => some t
  | _ => none

/-- The default that it gives: what stands between the quotes of a string literal, or the text. -/
def KeyValue.default? : KeyValue → Option Text
  | .literalDefault _ contents _ _ => some contents
  | .default t _ _ => some t
  | _ => none

/-- The required mark that it gives. -/
def KeyValue.required? : KeyValue → Option Bool
  | .required value => some value
  | _ => none

/-- A key with its value. -/
structure WrittenKey where
  /-- What stands in front of it. -/
  lead : Lead
  /-- The value. -/
  value : KeyValue
  /-- Blank characters in front of the colon. -/
  beforeColon : BlankText
  /-- Blank characters behind the colon. -/
  afterColon : BlankText
  /-- Blank characters behind the value. -/
  behind : BlankText

/-- Its text. -/
def WrittenKey.text (key : WrittenKey) : Text :=
  key.lead.text ++ (key.value.key.word ++ (key.beforeColon.1 ++ ':' :: (key.afterColon.1 ++
    (key.value.text ++ key.behind.1))))

/-- Parts with commas between them; `tail` stands behind a comma at the end, if there is one. -/
def listed (parts : List Text) (tail : Option BlankText) : Text :=
  join [','] (parts ++ (tail.map Subtype.val).toList)

/-- The value of an entry. -/
inductive WrittenValue where
  /-- A type alone. -/
  | shorthand (t : Text) (h : IsExpression t) (hbrace : t.head? ≠ some '{')
  /-- An object of keys. -/
  | definition (keys : List WrittenKey) (tail : Option BlankText)

/-- Its text. -/
def WrittenValue.text : WrittenValue → Text
  | .shorthand t _ _ => t
  | .definition keys tail => '{' :: (listed (keys.map WrittenKey.text) tail ++ ['}'])

/-- The type that it gives: that of its first `type` key, `any` without one. -/
def WrittenValue.type : WrittenValue → Text
  | .shorthand t _ _ => t
  | .definition keys _ => (keys.findSome? fun key => key.value.type?).getD "any"

/-- The default that it gives. -/
def WrittenValue.default? : WrittenValue → Option Text
  | .shorthand _ _ _ => none
  | .definition keys _ => keys.findSome? fun key => key.value.default?

/-- The required mark that it gives. -/
def WrittenValue.required : WrittenValue → Bool
  | .shorthand _ _ _ => false
  | .definition keys _ => (keys.findSome? fun key => key.value.required?).getD false

/-- An entry of a declaration object. -/
structure WrittenEntry where
  /-- What stands in front of it. -/
  lead : Lead
  /-- The quote around its name, if there is one. -/
  quote : Option Char
  /-- Its name. -/
  name : Text
  /-- Blank characters in front of the colon. -/
  beforeColon : BlankText
  /-- Blank characters behind the colon. -/
  afterColon : BlankText
  /-- Its value. -/
  value : WrittenValue
  /-- Blank characters behind the value. -/
  behind : BlankText
  isName : IsName name
  isQuote : ∀ q, quote = some q → q = '\'' ∨ q = '"'

/-- The name in its quotes. -/
def WrittenEntry.quotedName (entry : WrittenEntry) : Text :=
  entry.quote.toList ++ (entry.name ++ entry.quote.toList)

/-- Its text. -/
def WrittenEntry.text (entry : WrittenEntry) : Text :=
  entry.lead.text ++ (entry.quotedName ++ (entry.beforeColon.1 ++ ':' :: (entry.afterColon.1 ++
    (entry.value.text ++ entry.behind.1))))

/-- Its text with another value in place of its own. -/
def WrittenEntry.withValue (entry : WrittenEntry) (value : Text) : Text :=
  entry.lead.text ++ (entry.quotedName ++ (entry.beforeColon.1 ++ ':' :: (entry.afterColon.1 ++
    (value ++ entry.behind.1))))

/-- The property that it declares. -/
def WrittenEntry.property (entry : WrittenEntry) : Property where
  name := entry.name
  type := entry.value.type
  required := entry.value.required
  default := entry.value.default?
  description := entry.lead.description
  source := source

/-! ## Characters of names -/

theorem isIdentifierChar_of_isIdentifierStart {c : Char} (h : isIdentifierStart c = true) :
    isIdentifierChar c = true := by
  obtain ⟨ranges, hranges⟩ : ∃ ranges, wordRanges =
      (0x30, 0x39) :: (0x41, 0x5A) :: (0x5F, 0x5F) :: (0x61, 0x7A) :: ranges := ⟨_, rfl⟩
  have hword (hcode : (65 ≤ c.toNat ∧ c.toNat ≤ 90) ∨ (97 ≤ c.toNat ∧ c.toNat ≤ 122) ∨ c.toNat = 95) :
      isWord c = true := by
    simp only [isWord, hranges, inRanges]
    split_ifs <;> first | rfl | omega
  simp only [isIdentifierStart, Bool.or_eq_true, Bool.and_eq_true, decide_eq_true_eq, Char.le_def,
    UInt32.le_iff_toNat_le] at h
  rcases h with ((h | h) | rfl) | rfl
  · rw [isIdentifierChar, hword (.inl h), Bool.true_or]
  · rw [isIdentifierChar, hword (.inr (.inl h)), Bool.true_or]
  · decide
  · decide

/-- No blank character stands in a name. -/
theorem not_blank_of_name {c : Char} (h : (isIdentifierChar c || c = '-') = true) : isBlank c = false := by
  rw [Bool.eq_false_iff]
  intro hblank
  rw [isIdentifierChar, isWord_of_isBlank hblank, Bool.false_or, Bool.or_eq_true, decide_eq_true_eq,
    decide_eq_true_eq] at h
  rcases h with rfl | rfl <;> exact absurd hblank (by decide)

theorem not_blank_of_isIdentifierChar {c : Char} (h : isIdentifierChar c = true) : isBlank c = false :=
  not_blank_of_name (by rw [h, Bool.true_or])

theorem not_blank_of_isIdentifierStart {c : Char} (h : isIdentifierStart c = true) : isBlank c = false :=
  not_blank_of_isIdentifierChar (isIdentifierChar_of_isIdentifierStart h)

theorem not_blank_of_isQuote {c : Char} (h : isQuote c = true) : isBlank c = false := by
  simp only [isQuote, Bool.or_eq_true, decide_eq_true_eq] at h
  rcases h with (rfl | rfl) | rfl <;> decide

/-! ## What is written is code -/

theorem not_slash_of_isBlank {c : Char} (h : isBlank c = true) : c ≠ '/' ∧ c ≠ '*' := by
  constructor <;> rintro rfl <;> revert h <;> decide

theorem apart_blank_right (b : BlankText) : Apart a b.1 := by
  intro _ d hd
  exact not_slash_of_isBlank (allBlank_eq_true_iff.1 b.2 d (List.mem_of_head? hd))

/-- A comma plays no other part. -/
theorem isSeparator_comma : IsSeparator (· == ',') ',' := isSeparator_of_inert (by decide)

/-- Characters of a class that holds neither a comma nor a character that plays a part. -/
theorem inert_of {p : Char → Bool} (hp : (',' :: specialChars).all fun s => !p s)
    (h : ∀ c ∈ t, p c = true) : ∀ c ∈ t, c ∉ specialChars ∧ (c == ',') = false := by
  intro c hc
  have hno : c ∉ ',' :: specialChars := by
    intro hin
    simpa [h c hc] using List.all_eq_true.1 hp c hin
  simpa [not_or, and_comm] using hno

theorem code_blank_append (blank : BlankText) (h : Code k (· == ',') t) :
    Code k (· == ',') (blank.1 ++ t) :=
  h.inert_append (inert_of (p := isBlank) (by decide) (allBlank_eq_true_iff.1 blank.2))

theorem code_blank (blank : BlankText) : Code k (· == ',') blank.1 := by
  simpa using code_blank_append blank .nil

theorem code_colon (h : Code k (· == ',') t) : Code k (· == ',') (':' :: t) :=
  .inert_append (a := [':']) (by simp; decide) h

theorem Lead.code_text (lead : Lead) : Code true (· == ',') lead.text := by
  obtain ⟨blank, comment⟩ := lead
  cases comment with
  | none => exact code_blank_append blank .nil
  | some comment =>
    obtain ⟨comment, behind⟩ := comment
    exact code_blank_append blank
      ((comment.2.code_written _).append (code_blank behind) (apart_blank_right behind))

theorem KeyValue.isExpression (value : KeyValue) : IsExpression value.text := by
  cases value with
  | type t h => exact h
  | default t h hquotes => exact h
  | literalDefault quote contents hquote h =>
    have hblank : isBlank quote = false := not_blank_of_isQuote hquote
    have hcode : Code false (· == ',') (quote :: (contents ++ [quote] ++ [])) := .literal hquote h .nil
    rw [List.append_nil] at hcode
    refine ⟨hcode, List.cons_ne_nil _ _, strip_eq_self ?_ ?_⟩
    · intro c hc
      obtain rfl : quote = c := Option.some.inj hc
      exact hblank
    · intro c hc
      rw [KeyValue.text, ← List.cons_append, List.getLast?_concat] at hc
      obtain rfl : quote = c := Option.some.inj hc
      exact hblank
  | required value =>
    have hcode : ∀ t : Text, (t.all fun c => c ∉ specialChars && c != ',') = true →
        Code false (· == ',') t := by
      intro t ht
      refine .of_inert fun c hc => ?_
      simpa using List.all_eq_true.1 ht c hc
    cases value with
    | false => exact ⟨hcode _ (by decide), by decide, by decide⟩
    | true => exact ⟨hcode _ (by decide), by decide, by decide⟩

/-- What stands behind the name of an entry or a key. -/
theorem code_behind_name (beforeColon afterColon behind : BlankText) (h : Code true (· == ',') t) :
    Code true (· == ',') (beforeColon.1 ++ ':' :: (afterColon.1 ++ (t ++ behind.1))) :=
  code_blank_append beforeColon (code_colon (code_blank_append afterColon
    (h.append (code_blank behind) (apart_blank_right behind))))

theorem WrittenKey.code_text (key : WrittenKey) : Code true (· == ',') key.text := by
  have hvalue : Code true (· == ',') key.value.text :=
    key.value.isExpression.code.mono (by simp) fun _ h => h
  have hword : ∀ c ∈ key.value.key.word, c ∉ specialChars ∧ (c == ',') = false := by
    cases key.value.key <;> decide
  have hhead : ∀ d, (key.value.key.word ++ (key.beforeColon.1 ++ ':' :: (key.afterColon.1 ++
      (key.value.text ++ key.behind.1)))).head? = some d → d ≠ '/' ∧ d ≠ '*' := by
    intro d hd
    cases hkey : key.value.key <;> rw [hkey] at hd <;> obtain rfl := Option.some.inj hd <;> decide
  exact key.lead.code_text.append
    (.inert_append hword (code_behind_name key.beforeColon key.afterColon key.behind hvalue))
    fun _ => hhead

theorem code_listed {parts : List Text} (h : ∀ part ∈ parts, Code true (· == ',') part)
    (tail : Option BlankText) :
    ∀ part ∈ parts ++ (tail.map Subtype.val).toList, Code true (· == ',') part := by
  intro part hpart
  rcases List.mem_append.1 hpart with hpart | hpart
  · exact h part hpart
  · cases tail with
    | none => cases hpart
    | some blank =>
      obtain rfl : part = blank.1 := by simpa using hpart
      exact code_blank blank

theorem WrittenValue.code_text (value : WrittenValue) : Code true (· == ',') value.text := by
  cases value with
  | shorthand t h hbrace => exact h.code.mono (by simp) fun _ h => h
  | definition keys tail =>
    have hkeys : ∀ part ∈ keys.map WrittenKey.text, Code true (· == ',') part := by
      intro part hpart
      obtain ⟨key, -, rfl⟩ := List.mem_map.1 hpart
      exact key.code_text
    exact .block .curly (code_join isSeparator_comma (code_listed hkeys tail)) .nil

/-- Neither a name nor a quote in front of it opens a comment. -/
theorem WrittenEntry.head_quotedName (entry : WrittenEntry) (rest : Text) :
    ∃ c t, entry.quotedName ++ rest = c :: t ∧ isBlank c = false ∧ c ≠ '/' ∧ c ≠ '*' := by
  obtain ⟨hhead, -⟩ := entry.isName
  cases hquote : entry.quote with
  | some q =>
    refine ⟨q, entry.name ++ [q] ++ rest, by simp [WrittenEntry.quotedName, hquote], ?_⟩
    rcases entry.isQuote q hquote with rfl | rfl <;> decide
  | none =>
    cases hname : entry.name with
    | nil =>
      rw [hname] at hhead
      cases hhead
    | cons c name =>
      rw [hname] at hhead
      refine ⟨c, name ++ rest, by simp [WrittenEntry.quotedName, hquote, hname], ?_⟩
      have hstart : isIdentifierStart c = true := hhead
      refine ⟨not_blank_of_isIdentifierStart hstart, ?_⟩
      constructor <;> rintro rfl <;> revert hstart <;> decide

/-- A name, in quotes or not, is code. -/
theorem code_quoted {quote : Option Char} (hname : ∀ c ∈ name, (isIdentifierChar c || c = '-') = true)
    (hquote : ∀ q, quote = some q → q = '\'' ∨ q = '"') :
    Code k (· == ',') (quote.toList ++ (name ++ quote.toList)) := by
  cases quote with
  | none =>
    rw [Option.toList_none, List.nil_append, List.append_nil]
    exact .of_inert (inert_of (p := fun c => isIdentifierChar c || c = '-') (by decide) hname)
  | some q =>
    rw [Option.toList_some, List.singleton_append, ← List.append_nil (name ++ [q])]
    refine .literal ?_ (.of_plain fun c hc => ?_) .nil
    · rcases hquote q rfl with rfl | rfl <;> decide
    · have hne : ∀ d, (isIdentifierChar d || d = '-') = false → c ≠ d := by
        rintro d hd rfl
        rw [hname c hc] at hd
        cases hd
      refine ⟨hne _ (by decide), hne _ ?_, hne _ (by decide)⟩
      rcases hquote q rfl with rfl | rfl <;> decide

theorem WrittenEntry.code_quotedName (entry : WrittenEntry) : Code true (· == ',') entry.quotedName :=
  code_quoted entry.isName.2 entry.isQuote

theorem WrittenEntry.code_withValue (entry : WrittenEntry) {value : Text}
    (hvalue : Code true (· == ',') value) : Code true (· == ',') (entry.withValue value) := by
  obtain ⟨c, t, he, -, hc⟩ := entry.head_quotedName (entry.beforeColon.1 ++ ':' ::
    (entry.afterColon.1 ++ (value ++ entry.behind.1)))
  have hcolon : Apart entry.quotedName (entry.beforeColon.1 ++ ':' ::
      (entry.afterColon.1 ++ (value ++ entry.behind.1))) :=
    apart_append_right (apart_blank_right _) fun _ => apart_of_head (by decide)
  have hrest := entry.code_quotedName.append
    (code_behind_name entry.beforeColon entry.afterColon entry.behind hvalue) hcolon
  exact entry.lead.code_text.append hrest (by rw [he]; exact apart_of_head hc)

theorem WrittenEntry.code_text (entry : WrittenEntry) : Code true (· == ',') entry.text :=
  entry.code_withValue entry.value.code_text

/-- An entry has a colon, and so is not blank. -/
theorem WrittenEntry.not_blank_withValue (entry : WrittenEntry) (value : Text) :
    (entry.withValue value).allBlank = false :=
  not_blank_of_mem (c := ':') (by decide) (by simp [WrittenEntry.withValue])

end ComponentBook.ObjectDeclaration
