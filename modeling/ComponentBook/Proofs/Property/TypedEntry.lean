import ComponentBook.Proofs.Property.DefaultExpression
import ComponentBook.Proofs.Property.TypeExpression

/-! # Entries with types that have arguments

In a declaration object the type of an entry may be an expression with a cast to a type expression behind it,
such as `Object as PropType<Map<string, number>>` (**`Cast`**). It stands alone or as the `type` in an object
with other keys (**`TypedValue`**). What is read is the cast up to the first comma between type arguments that
stands in no other brackets, and so the whole cast exactly when there is no such comma
(**`Cast.found_eq_text_iff`**). What stands behind that comma is passed over: the other keys of the object and
the other entries are read as ever (**`objectProperties_typedScript`**). -/

namespace ComponentBook.ObjectDeclaration

open Script Text

variable {a b p s t : Text} {as bs ps : List Text}

/-- Parts stand among others as their join does. -/
theorem join_append_join (hne : ps ≠ []) (as bs : List Text) :
    join [','] (as ++ join [','] ps :: bs) = join [','] (as ++ (ps ++ bs)) := by
  have hbehind : join [','] (join [','] ps :: bs) = join [','] (ps ++ bs) := by
    cases bs with
    | nil => rw [join_singleton, List.append_nil]
    | cons b bs =>
      rw [join_append _ hne (List.cons_ne_nil _ _), join_cons_cons]
  cases as with
  | nil => exact hbehind
  | cons a as =>
    have hnil : ps ++ bs ≠ [] := fun h => hne (List.append_eq_nil_iff.1 h).1
    rw [join_append _ (List.cons_ne_nil _ _) (List.cons_ne_nil _ _), hbehind,
      join_append _ (List.cons_ne_nil _ _) hnil]

/-! ## Casts -/

/-- An expression with a cast to a type behind it. -/
structure Cast where
  /-- The expression. -/
  value : Text
  /-- The blank characters in front of `as`. -/
  beforeAs : BlankText
  /-- The blank characters behind `as`. -/
  afterAs : BlankText
  /-- The type. -/
  target : TypeSyntax .type
  isValue : IsExpression value
  no_brace : value.head? ≠ some '{'

/-- A type text starts and ends with characters that are not blank. -/
theorem TypeSyntax.getLast?_text {k : TypeSort} (t : TypeSyntax k) (hk : k = .type) :
    ∃ c, t.text.getLast? = some c ∧ isBlank c = false := by
  induction t with
  | name t h =>
    obtain ⟨hne, hname⟩ := h
    refine ⟨_, List.getLast?_eq_some_getLast hne, ?_⟩
    rw [Bool.eq_false_iff]
    intro hblank
    have hpart := hname _ (List.getLast_mem hne)
    rw [not_namePart_of_isBlank hblank] at hpart
    cases hpart
  | bracketed b body h =>
    refine ⟨b.closing, ?_, by cases b <;> decide⟩
    rw [text, ← List.cons_append, List.getLast?_concat]
  | function parameters h beforeArrow afterArrow result ih =>
    obtain ⟨c, hlast, hc⟩ := ih rfl
    exact ⟨c, by rw [text, List.getLast?_append, hlast, Option.some_or], hc⟩
  | union left beforeBar afterBar right ihLeft ihRight =>
    obtain ⟨c, hlast, hc⟩ := ihRight rfl
    exact ⟨c, by rw [text, List.getLast?_append, List.getLast?_append, hlast, Option.some_or, Option.some_or], hc⟩
  | generic name h args ih =>
    refine ⟨'>', ?_, by decide⟩
    rw [text, ← List.append_assoc, List.getLast?_concat]
  -- arguments are no type by themselves
  | last before t behind ih => cases hk
  | more before t behind others ih ihOthers => cases hk

namespace Cast

variable (cast : Cast)

/-- What stands in front of the type. -/
def front : Text := cast.value ++ (cast.beforeAs.1 ++ ("as" ++ cast.afterAs.1))

/-- Its text. -/
def text : Text := cast.front ++ cast.target.text

/-- Its text up to the first comma that separates. -/
def start : Text := cast.front ++ cast.target.parts.headD []

/-- What is found of it. -/
def found : Text := strip cast.start

theorem head?_append (r : Text) : ∃ c, (cast.front ++ r).head? = some c ∧ isBlank c = false ∧ c ≠ '{' := by
  obtain ⟨c, value, hvalue⟩ := List.exists_cons_of_ne_nil cast.isValue.ne_nil
  have hhead : cast.value.head? = some c := by rw [hvalue]; rfl
  refine ⟨c, by rw [front, hvalue]; rfl, ?_, ?_⟩
  · rw [← cast.isValue.trimmed] at hhead
    exact head?_strip_not_blank hhead
  · rintro rfl
    exact cast.no_brace hhead

theorem trimmed : strip cast.text = cast.text := by
  refine strip_eq_self (fun c hc => ?_) fun c hc => ?_
  · obtain ⟨d, hd, hblank, -⟩ := cast.head?_append cast.target.text
    rw [text, hd] at hc
    obtain rfl := Option.some.inj hc
    exact hblank
  · obtain ⟨d, hd, hblank⟩ := cast.target.getLast?_text rfl
    rw [text, List.getLast?_append, hd] at hc
    obtain rfl := Option.some.inj hc
    exact hblank

/-- **The whole cast is found** exactly when no list of several type arguments stands outside of round, square
and curly brackets. -/
theorem found_eq_text_iff : cast.found = cast.text ↔ cast.target.IsWhole := by
  rw [← cast.target.length_parts_eq_one_iff]
  obtain ⟨q, qs, hparts⟩ := List.exists_cons_of_ne_nil cast.target.parts_ne_nil
  have htext := cast.target.join_parts
  rw [found, start, text, ← htext, hparts, List.headD_cons]
  constructor
  · intro h
    cases qs with
    | nil => rfl
    | cons q' qs =>
      -- the comma is not found
      have hle := (strip_sublist (cast.front ++ q)).length_le
      rw [h, join_cons_cons] at hle
      simp at hle
  · intro h
    obtain rfl : qs = [] := List.length_eq_zero_iff.1 (by simpa using h)
    rw [hparts, join_singleton] at htext
    rw [join_singleton, htext]
    exact cast.trimmed

/-- The part of it in front of the first comma that separates is an expression of its own. -/
theorem readValue_found : readValue cast.found = (cast.found, none, false) := by
  obtain ⟨c, hc, hblank, hbrace⟩ := cast.head?_append (cast.target.parts.headD [])
  obtain ⟨t, ht⟩ := List.head?_eq_some_iff.1 hc
  rw [found, start, ht, readValue_shorthand hblank hbrace]

theorem found_ne_nil : cast.found ≠ [] := by
  obtain ⟨c, hc, hblank, -⟩ := cast.head?_append (cast.target.parts.headD [])
  intro hnil
  have hall := allBlank_eq_true_iff.1 (strip_eq_nil_iff.1 hnil) c (List.mem_of_head? hc)
  rw [hblank] at hall
  cases hall

/-- What stands in front of the type is code behind which any code may stand. -/
theorem isPiece_front : IsPiece cast.front := by
  have hbehind : IsPiece ("as" ++ cast.afterAs.1) :=
    (isPiece_of_inert (by decide)).append (isPiece_blank cast.afterAs)
  have hapart : Apart cast.value (cast.beforeAs.1 ++ ("as" ++ cast.afterAs.1)) :=
    apart_append_right (apart_blank_right _) fun _ => apart_of_head (by decide)
  exact .code_append (cast.isValue.code.mono (by simp) fun _ h => h)
    ((isPiece_blank cast.beforeAs).append hbehind) (by simp) hapart

/-- The parts of a text in which a cast stands with code in front and blank characters behind. -/
def partsIn (before : Text) (behind : BlankText) : List Text :=
  prepend (before ++ cast.front) (glue cast.target.parts [behind.1])

theorem join_partsIn (before : Text) (behind : BlankText) :
    join [','] (cast.partsIn before behind) = before ++ (cast.text ++ behind.1) := by
  rw [partsIn, join_prepend, join_glue cast.target.parts_ne_nil, cast.target.join_parts, join_singleton, text]
  simp

/-- The first part has what is found of the cast, and the other parts are parts of its type. -/
theorem exists_partsIn (before : Text) (behind : BlankText) :
    ∃ (blank : BlankText) (rest : List Text),
      cast.partsIn before behind = (before ++ (cast.start ++ blank.1)) :: rest ∧
        ∀ p ∈ rest, IsTypePart p := by
  obtain ⟨q, qs, hparts⟩ := List.exists_cons_of_ne_nil cast.target.parts_ne_nil
  have hall := cast.target.isTypePart
  rw [partsIn, start, hparts, List.headD_cons]
  rw [hparts] at hall
  -- the blank characters behind the type go to its last part, which may be the first one
  cases qs with
  | nil => exact ⟨behind, [], by simp [glue, prepend], by simp⟩
  | cons q' qs =>
    have hrest : ∀ p ∈ glue (q' :: qs) [behind.1], IsTypePart p :=
      forall_mem_glue (List.forall_mem_cons.1 hall).2 (List.cons_ne_nil q' qs) (by simp)
        fun p hp => hp.append (isPiece_blank behind) (endsName_blank behind)
    exact ⟨noBlank, glue (q' :: qs) [behind.1], by simp [glue, prepend, noBlank], hrest⟩

theorem code_partsIn {before : Text} (hbefore : IsPiece before) (behind : BlankText) :
    ∀ p ∈ cast.partsIn before behind, Code true (· == ',') p := by
  have hpiece : ∀ p ∈ glue cast.target.parts [behind.1], IsPiece p :=
    forall_mem_glue (fun p hp => (cast.target.isTypePart p hp).toIsPiece) cast.target.parts_ne_nil
      (by simp) fun p hp => hp.append (isPiece_blank behind)
  exact fun p hp => (forall_mem_prepend hpiece (glue_ne_nil cast.target.parts_ne_nil _)
    (fun p hp => (hbefore.append cast.isPiece_front).append hp) p hp).code

end Cast

/-! ## Entries -/

/-- How the cast is given to an entry. -/
inductive TypedValue where
  /-- Alone. -/
  | shorthand
  /-- As the type in an object, with the other keys behind it. -/
  | definition (lead : Lead) (beforeColon afterColon behind : BlankText) (keys : List WrittenKey)
      (tail : Option BlankText)

namespace TypedValue

/-- The text of the entry's value. -/
def text (cast : Cast) : TypedValue → Text
  | .shorthand => cast.text
  | .definition lead beforeColon afterColon behind keys tail =>
    '{' :: (listed ((lead.text ++ (Key.type.word ++ (beforeColon.1 ++ ':' :: (afterColon.1 ++
      (cast.text ++ behind.1))))) :: keys.map WrittenKey.text) tail ++ ['}'])

/-- The default that stands beside the cast. -/
def default? : TypedValue → Option Text
  | .shorthand => none
  | .definition _ _ _ _ keys tail => (WrittenValue.definition keys tail).default?

/-- The required mark that stands beside the cast. -/
def required : TypedValue → Bool
  | .shorthand => false
  | .definition _ _ _ _ keys tail => (WrittenValue.definition keys tail).required

end TypedValue

variable {cast : Cast} {lead : Lead} {beforeColon afterColon : BlankText}

/-- What stands in front of the cast in an object. -/
def typeOpening (lead : Lead) (beforeColon afterColon : BlankText) : Text :=
  lead.text ++ (Key.type.word ++ (beforeColon.1 ++ ':' :: afterColon.1))

theorem isPiece_typeOpening (lead : Lead) (beforeColon afterColon : BlankText) :
    IsPiece (typeOpening lead beforeColon afterColon) := by
  have hword : IsPiece Key.type.word := isPiece_of_inert (by decide)
  exact .code_append lead.code_text (hword.append (isPiece_colon beforeColon afterColon)) (by simp)
    (apart_of_head (by decide))

/-- Behind the word `type` the part of the cast that is found is the value, and no other key is found. -/
theorem valueIn?_start (cast : Cast) (lead : Lead) (beforeColon afterColon blank : BlankText) (key : Key) :
    valueIn? key (typeOpening lead beforeColon afterColon ++ (cast.start ++ blank.1)) =
      if Key.type = key then some cast.found else none := by
  have hlead : (leadingComments (typeOpening lead beforeColon afterColon ++ (cast.start ++ blank.1))).2 =
      Key.type.word ++ (beforeColon.1 ++ ':' :: (afterColon.1 ++ (cast.start ++ blank.1))) := by
    have hshape : typeOpening lead beforeColon afterColon ++ (cast.start ++ blank.1) = lead.text ++
        (Key.type.word ++ (beforeColon.1 ++ ':' :: (afterColon.1 ++ (cast.start ++ blank.1)))) := by
      simp [typeOpening]
    rw [hshape, leadingComments_lead]
    intro c hc
    obtain rfl := Option.some.inj hc
    decide
  rw [valueIn?, hlead]
  by_cases hkey : Key.type = key
  · subst hkey
    rw [if_pos rfl, keyValue?_eq_some_iff]
    refine ⟨_, _, rfl, ?_, .inl (stripLeft_append_cons (by decide) _ _), ?_⟩
    · rw [boundary, head?_behind_name]
      decide
    · rw [strip_blank_append afterColon.2, strip_append_blank blank.2, Cast.found]
  · rw [if_neg hkey]
    exact keyValue?_of_ne (Ne.symm hkey) _

/-- The entry's object as parts between commas. -/
def definitionParts (cast : Cast) (lead : Lead) (beforeColon afterColon behind : BlankText)
    (keys : List WrittenKey) : List Text :=
  cast.partsIn (typeOpening lead beforeColon afterColon) behind ++ keys.map WrittenKey.text

theorem listed_definitionParts (cast : Cast) (lead : Lead) (beforeColon afterColon behind : BlankText)
    (keys : List WrittenKey) (tail : Option BlankText) :
    listed ((lead.text ++ (Key.type.word ++ (beforeColon.1 ++ ':' :: (afterColon.1 ++
      (cast.text ++ behind.1))))) :: keys.map WrittenKey.text) tail =
        listed (definitionParts cast lead beforeColon afterColon behind keys) tail := by
  have hne : cast.partsIn (typeOpening lead beforeColon afterColon) behind ≠ [] := prepend_ne_nil _ _
  have hjoin := join_append_join hne [] (keys.map WrittenKey.text ++ (tail.map Subtype.val).toList)
  have hfirst : typeOpening lead beforeColon afterColon ++ (cast.text ++ behind.1) = lead.text ++
      (Key.type.word ++ (beforeColon.1 ++ ':' :: (afterColon.1 ++ (cast.text ++ behind.1)))) := by
    simp [typeOpening]
  rw [cast.join_partsIn, hfirst] at hjoin
  rw [listed, listed, definitionParts, List.append_assoc]
  exact hjoin

theorem code_definitionParts (cast : Cast) (lead : Lead) (beforeColon afterColon behind : BlankText)
    (keys : List WrittenKey) :
    ∀ part ∈ definitionParts cast lead beforeColon afterColon behind keys, Code true (· == ',') part :=
  List.forall_mem_append.2 ⟨cast.code_partsIn (isPiece_typeOpening _ _ _) behind,
    List.forall_mem_map.2 fun key _ => key.code_text⟩

theorem code_listed_definitionParts (cast : Cast) (lead : Lead) (beforeColon afterColon behind : BlankText)
    (keys : List WrittenKey) (tail : Option BlankText) : Code true (fun _ => false)
      (listed (definitionParts cast lead beforeColon afterColon behind keys) tail) :=
  code_join isSeparator_comma (code_listed (code_definitionParts _ _ _ _ _ _) tail)

theorem not_blank_definitionParts (cast : Cast) (lead : Lead) (beforeColon afterColon behind : BlankText)
    (keys : List WrittenKey) :
    ∀ part ∈ definitionParts cast lead beforeColon afterColon behind keys, allBlank part = false := by
  obtain ⟨blank, rest, hparts, hrest⟩ :=
    cast.exists_partsIn (typeOpening lead beforeColon afterColon) behind
  rw [definitionParts, hparts]
  refine List.forall_mem_append.2 ⟨List.forall_mem_cons.2 ⟨?_, fun p hp => (hrest p hp).not_blank⟩,
    List.forall_mem_map.2 fun key _ => ?_⟩
  · exact not_blank_of_mem (c := ':') (by decide) (by simp [typeOpening])
  · exact not_blank_of_mem (c := ':') (by decide) (by simp [WrittenKey.text])

/-- What an entry's object with the cast in it gives for a key. -/
theorem valueOf?_definitionParts (cast : Cast) (lead : Lead) (beforeColon afterColon behind : BlankText)
    (keys : List WrittenKey) (tail : Option BlankText) (key : Key) :
    valueOf? key (listed (definitionParts cast lead beforeColon afterColon behind keys) tail) =
      if Key.type = key then some cast.found else valueOf? key (listed (keys.map WrittenKey.text) tail) := by
  obtain ⟨blank, rest, hparts, hrest⟩ :=
    cast.exists_partsIn (typeOpening lead beforeColon afterColon) behind
  have hkeys : valueOf? key (listed (keys.map WrittenKey.text) tail) =
      (keys.map WrittenKey.text).findSome? (valueIn? key) :=
    valueOf?_parts (List.forall_mem_map.2 fun key _ => key.code_text)
      (List.forall_mem_map.2 fun key _ => not_blank_of_mem (c := ':') (by decide) (by simp [WrittenKey.text]))
      tail key
  rw [valueOf?_parts (code_definitionParts _ _ _ _ _ _) (not_blank_definitionParts _ _ _ _ _ _), hkeys,
    definitionParts, hparts, List.cons_append, List.findSome?_cons, valueIn?_start]
  -- for `type` the first part has the value; for another key no part of the cast has one
  by_cases hkey : Key.type = key
  · rw [if_pos hkey, if_pos hkey]
  · have hnone : rest.findSome? (valueIn? key) = none :=
      List.findSome?_eq_none_iff.2 fun p hp => (hrest p hp).valueIn?_eq_none key
    rw [if_neg hkey, if_neg hkey, List.findSome?_append, hnone, Option.none_or]

theorem readDefinition_definitionParts (cast : Cast) (lead : Lead)
    (beforeColon afterColon behind : BlankText) (keys : List WrittenKey) (tail : Option BlankText) :
    readDefinition (listed (definitionParts cast lead beforeColon afterColon behind keys) tail) =
      (cast.found, (WrittenValue.definition keys tail).default?,
        (WrittenValue.definition keys tail).required) := by
  have hkeys := readDefinition_listed keys tail
  obtain ⟨c, t, hfound⟩ := List.exists_cons_of_ne_nil cast.found_ne_nil
  rw [readDefinition] at hkeys ⊢
  rw [valueOf?_definitionParts, valueOf?_definitionParts, valueOf?_definitionParts, if_pos rfl,
    if_neg (by decide), if_neg (by decide), hfound]
  exact Prod.ext rfl (Prod.mk.inj hkeys).2

/-- What stands in front of an entry's value. -/
def WrittenEntry.opening (entry : WrittenEntry) : Text :=
  entry.lead.text ++ (entry.quotedName ++ (entry.beforeColon.1 ++ ':' :: entry.afterColon.1))

theorem WrittenEntry.isPiece_opening (entry : WrittenEntry) : IsPiece entry.opening := by
  obtain ⟨c, t, he, -, hc⟩ := entry.head_quotedName (entry.beforeColon.1 ++ ':' :: entry.afterColon.1)
  have hname : IsPiece (entry.quotedName ++ (entry.beforeColon.1 ++ ':' :: entry.afterColon.1)) :=
    .code_append entry.code_quotedName (isPiece_colon _ _) (by simp)
      (apart_append_right (apart_blank_right _) fun _ => apart_of_head (by decide))
  rw [opening]
  rw [he] at hname ⊢
  exact .code_append entry.lead.code_text hname (List.cons_ne_nil _ _) (apart_of_head hc)

/-- Blank characters around the value of an entry are left out. -/
theorem property?_withValue_strip (entry : WrittenEntry) (hne : strip t ≠ []) :
    property? (entry.withValue t) = some (entry.readAs (readValue (strip t))) := by
  obtain ⟨a, b, ht⟩ := exists_eq_strip t
  have hbefore : allBlank (entry.afterColon.1 ++ a.1) = true := by
    rw [allBlank_append, entry.afterColon.2, a.2, Bool.and_self]
  have hbehind : allBlank (b.1 ++ entry.behind.1) = true := by
    rw [allBlank_append, b.2, entry.behind.2, Bool.and_self]
  have hshape : entry.withValue t =
      { entry with afterColon := ⟨_, hbefore⟩, behind := ⟨_, hbehind⟩ : WrittenEntry }.withValue (strip t) := by
    conv_lhs => rw [ht]
    simp [WrittenEntry.withValue, WrittenEntry.quotedName]
  rw [hshape, property?_withValue _ hne (strip_strip t)]
  rfl

namespace TypedValue

/-- The parts between the commas that separate of an entry with the cast. -/
def partsOf (entry : WrittenEntry) (cast : Cast) : TypedValue → List Text
  | .shorthand => cast.partsIn entry.opening entry.behind
  | .definition lead beforeColon afterColon behind keys tail =>
    [entry.withValue ('{' :: (listed (definitionParts cast lead beforeColon afterColon behind keys) tail ++ ['}']))]

theorem partsOf_ne_nil (entry : WrittenEntry) (cast : Cast) (value : TypedValue) :
    value.partsOf entry cast ≠ [] := by
  cases value with
  | shorthand => exact prepend_ne_nil _ _
  | definition lead beforeColon afterColon behind keys tail => exact List.cons_ne_nil _ _

/-- They make up the entry. -/
theorem join_partsOf (entry : WrittenEntry) (cast : Cast) (value : TypedValue) :
    join [','] (value.partsOf entry cast) = entry.withValue (value.text cast) := by
  cases value with
  | shorthand =>
    rw [partsOf, cast.join_partsIn, WrittenEntry.opening, WrittenEntry.withValue, text]
    simp
  | definition lead beforeColon afterColon behind keys tail =>
    rw [partsOf, join_singleton, text, listed_definitionParts]

theorem code_partsOf (entry : WrittenEntry) (cast : Cast) (value : TypedValue) :
    ∀ part ∈ value.partsOf entry cast, Code true (· == ',') part := by
  cases value with
  | shorthand => exact cast.code_partsIn entry.isPiece_opening entry.behind
  | definition lead beforeColon afterColon behind keys tail =>
    exact List.forall_mem_singleton.2
      (entry.code_withValue (.block .curly (code_listed_definitionParts _ _ _ _ _ _ tail) .nil))

theorem not_blank_partsOf (entry : WrittenEntry) (cast : Cast) (value : TypedValue) :
    ∀ part ∈ value.partsOf entry cast, allBlank part = false := by
  cases value with
  | shorthand =>
    obtain ⟨blank, rest, hparts, hrest⟩ := cast.exists_partsIn entry.opening entry.behind
    rw [partsOf, hparts]
    exact List.forall_mem_cons.2 ⟨not_blank_of_mem (c := ':') (by decide) (by simp [WrittenEntry.opening]),
      fun p hp => (hrest p hp).not_blank⟩
  | definition lead beforeColon afterColon behind keys tail =>
    exact List.forall_mem_singleton.2 (entry.not_blank_withValue _)

/-- **One property is read of them**, with the part of the cast that is found as its type. -/
theorem filterMap_partsOf (entry : WrittenEntry) (cast : Cast) (value : TypedValue) :
    (value.partsOf entry cast).filterMap property? =
      [entry.readAs (cast.found, value.default?, value.required)] := by
  cases value with
  | shorthand =>
    obtain ⟨blank, rest, hparts, hrest⟩ := cast.exists_partsIn entry.opening entry.behind
    have hfirst : property? (entry.opening ++ (cast.start ++ blank.1)) =
        some (entry.readAs (cast.found, none, false)) := by
      have hread := property?_withValue_strip { entry with behind := blank } cast.found_ne_nil
      rw [← Cast.found, cast.readValue_found] at hread
      have hshape : entry.opening ++ (cast.start ++ blank.1) =
          { entry with behind := blank : WrittenEntry }.withValue cast.start := by
        simp [WrittenEntry.opening, WrittenEntry.withValue, WrittenEntry.quotedName]
      rw [hshape, hread]
      rfl
    -- the parts behind the first one start no entry
    have hnone : rest.filterMap property? = [] :=
      List.filterMap_eq_nil_iff.2 fun p hp => (hrest p hp).property?_eq_none
    rw [partsOf, hparts, List.filterMap_cons_some hfirst, hnone]
    rfl
  | definition lead beforeColon afterColon behind keys tail =>
    have hentry := property?_withValue entry (List.cons_ne_nil _ _) (strip_braces
      (listed (definitionParts cast lead beforeColon afterColon behind keys) tail))
    rw [readValue_braces (code_listed_definitionParts _ _ _ _ _ _ tail), readDefinition_definitionParts] at hentry
    rw [partsOf, List.filterMap_cons_some hentry]
    rfl

end TypedValue

/-! ## Scripts -/

/-- A script with a declaration object in which one entry has a cast as its type. -/
structure TypedScript where
  /-- The text in front of the declaration. -/
  before : Text
  /-- The words in front of the object. -/
  opening : Opening
  /-- The entries in front of the one with the cast. -/
  front : List WrittenEntry
  /-- An entry, with whose name and comment the cast stands. -/
  entry : WrittenEntry
  /-- The cast. -/
  cast : Cast
  /-- How it is given, in place of the value of the entry. -/
  value : TypedValue
  /-- The entries behind it. -/
  later : List WrittenEntry
  /-- What stands behind a comma at the end of the object. -/
  tail : Option BlankText
  /-- The text behind the object. -/
  after : Text
  /-- The first word of the declaration is not the end of another one. -/
  no_word : before.getLast?.any isWord = false
  /-- No declaration object starts in front of it. -/
  first : ∀ x y, before = x ++ y → y ≠ [] → objectHere? x.getLast? (y ++ (opening.text ++ '{' ::
    (listed (front.map WrittenEntry.text ++ entry.withValue (value.text cast) :: later.map WrittenEntry.text)
      tail ++ '}' :: after))) = none

namespace TypedScript

variable (script : TypedScript)

/-- The text of its object. -/
def body : Text :=
  listed (script.front.map WrittenEntry.text ++
    script.entry.withValue (script.value.text script.cast) :: script.later.map WrittenEntry.text) script.tail

/-- Its text. -/
def text : Text :=
  script.before ++ (script.opening.text ++ '{' :: (script.body ++ '}' :: script.after))

/-- The parts of its object. -/
def parts : List Text :=
  script.front.map WrittenEntry.text ++ (script.value.partsOf script.entry script.cast ++
    script.later.map WrittenEntry.text)

theorem body_eq : script.body = listed script.parts script.tail := by
  have hjoin := join_append_join (script.value.partsOf_ne_nil script.entry script.cast)
    (script.front.map WrittenEntry.text)
    (script.later.map WrittenEntry.text ++ (script.tail.map Subtype.val).toList)
  rw [script.value.join_partsOf] at hjoin
  rw [body, listed, listed, parts, List.append_assoc, List.append_assoc, List.append_assoc, List.cons_append]
  exact hjoin

theorem code_parts : ∀ part ∈ script.parts, Code true (· == ',') part := by
  rw [parts, List.forall_mem_append, List.forall_mem_append, List.forall_mem_map, List.forall_mem_map]
  exact ⟨fun entry _ => entry.code_text, script.value.code_partsOf _ _, fun entry _ => entry.code_text⟩

theorem not_blank_parts : ∀ part ∈ script.parts, allBlank part = false := by
  rw [parts, List.forall_mem_append, List.forall_mem_append, List.forall_mem_map, List.forall_mem_map]
  exact ⟨fun entry _ => entry.not_blank_withValue _, script.value.not_blank_partsOf _ _,
    fun entry _ => entry.not_blank_withValue _⟩

end TypedScript

/-- **How a cast is read as a type.** What is found of it is the type of its entry, and the entries around
and the other keys of its object are read as ever. The type is the whole cast exactly when no list of several
type arguments stands outside of round, square and curly brackets in it. -/
theorem objectProperties_typedScript (script : TypedScript) :
    objectProperties script.text =
        script.front.map WrittenEntry.read ++
          script.entry.readAs (script.cast.found, script.value.default?, script.value.required) ::
            script.later.map WrittenEntry.read ∧
      (script.cast.found = script.cast.text ↔ script.cast.target.IsWhole) := by
  refine ⟨?_, script.cast.found_eq_text_iff⟩
  have hfirst := script.first
  rw [← TypedScript.body, script.body_eq] at hfirst
  have hread : property? ∘ WrittenEntry.text = some ∘ WrittenEntry.read := by
    funext entry
    exact property?_text entry
  rw [TypedScript.text, script.body_eq]
  refine (objectProperties_listed script.no_word hfirst script.code_parts script.not_blank_parts).trans ?_
  rw [TypedScript.parts, List.filterMap_append, List.filterMap_append, script.value.filterMap_partsOf,
    List.filterMap_map, List.filterMap_map, hread, List.filterMap_eq_map]
  rfl

theorem isTypeName (h : t.all isNamePart) (hne : t ≠ []) : IsTypeName t :=
  ⟨hne, List.all_eq_true.1 h⟩

/-- The cast of an object to `PropType` of a type. -/
def propType (t : TypeSyntax .type) : Cast where
  value := "Object"
  beforeAs := space
  afterAs := space
  target := .generic "PropType" (isTypeName (by decide) (by decide)) (.last noBlank t noBlank)
  isValue := isExpression_of_letters (by decide) (by decide)
  no_brace := by decide

theorem code_members : Code true (fun _ => false) "a: X, b: Y" := .of_inert (by decide)

theorem no_word_brace : ("export default \x7b " : Text).getLast?.any isWord = false := by decide

/-- A required property of a type in which the commas stand in braces and parentheses. -/
def wholeTypeScript : TypedScript where
  before := "export default \x7b "
  opening := .property noBlank space
  front := []
  entry := plainEntry
  cast := propType (.union (.generic "Array" (isTypeName (by decide) (by decide))
      (.last noBlank (.bracketed .curly "a: X, b: Y" code_members) noBlank)) space space
    (.function "a: X, b: Y" code_members space space (.name "Z" (isTypeName (by decide) (by decide)))))
  value := .definition ⟨space, none⟩ noBlank space noBlank
    [⟨⟨space, none⟩, .required true, noBlank, space, space⟩] none
  later := [plainEntry]
  tail := none
  after := " \x7d"
  no_word := no_word_brace
  first := none_of_search (by decide)

/-- Its type is read whole. -/
theorem objectProperties_wholeTypeScript :
    wholeTypeScript.text = ("export default \x7b props: \x7b x: \x7b type: Object as PropType<".toList ++
        "Array<\x7ba: X, b: Y\x7d> | (a: X, b: Y) => Z>, required: true \x7d , x: String \x7d \x7d".toList) ∧
      objectProperties wholeTypeScript.text =
        [⟨"x", "Object as PropType<Array<\x7ba: X, b: Y\x7d> | (a: X, b: Y) => Z>", true, none, "", "options"⟩,
          ⟨"x", "String", false, none, "", "options"⟩] := by
  obtain ⟨hread, hwhole⟩ := objectProperties_typedScript wholeTypeScript
  rw [hwhole.2 ⟨trivial, trivial⟩] at hread
  exact ⟨by decide, hread⟩

/-- A required property of a type with two type arguments. -/
def mapTypeScript : TypedScript :=
  { wholeTypeScript with
    cast := propType (.generic "Map" (isTypeName (by decide) (by decide))
      (.more noBlank (.name "string" (isTypeName (by decide) (by decide))) noBlank
        (.last space (.name "number" (isTypeName (by decide) (by decide))) noBlank)))
    later := []
    first := none_of_search (by decide) }

/-- Its type ends in front of the comma between the arguments. -/
theorem objectProperties_mapTypeScript :
    mapTypeScript.text = ("export default \x7b props: \x7b x: \x7b type: ".toList ++
        "Object as PropType<Map<string, number>>, required: true \x7d \x7d \x7d".toList) ∧
      mapTypeScript.cast.text = "Object as PropType<Map<string, number>>".toList ∧
      objectProperties mapTypeScript.text =
        [⟨"x", "Object as PropType<Map<string", true, none, "", "options"⟩] := by
  obtain ⟨hread, -⟩ := objectProperties_typedScript mapTypeScript
  exact ⟨by decide, by decide, hread⟩

end ComponentBook.ObjectDeclaration
