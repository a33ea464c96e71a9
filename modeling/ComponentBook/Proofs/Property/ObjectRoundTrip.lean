import ComponentBook.Proofs.Property.WrittenObject

/-! # Declaration objects give back the properties they are written from

A script with a declaration object that is written as in `WrittenEntry` is read as the properties of its
entries, in order (**`objectProperties_text`**). One kind of comment is the exception: of a comment whose
text ends in the opening of a comment nothing is found, so that such a text must say nothing before its
first tag (**`objectProperties_text_iff`**).

The pieces are read in the order in which they are nested: what stands in front of an entry
(`leadingComments_lead`), the value of a key (`keyValue?_text`), an entry's object (`readDefinition_listed`),
an entry (`property?_text`). -/

namespace ComponentBook.ObjectDeclaration

open Script Text
open Script.DocComment (IsDocText written commentBefore? prose)

variable {a b t : Text}

/-! ## In front of an entry -/

theorem leadingComment?_of_blank (blank : BlankText)
    (ht : ∀ c, t.head? = some c → isBlank c = false ∧ c ≠ '/') : leadingComment? (blank.1 ++ t) = none := by
  have hdrop : (blank.1 ++ t).dropWhile isBlank = t :=
    dropWhile_append_of_stop (allBlank_eq_true_iff.1 blank.2) fun c hc => (ht c hc).1
  unfold leadingComment?
  rw [hdrop]
  split
  · exact absurd rfl (ht '/' rfl).2
  · exact absurd rfl (ht '/' rfl).2
  · rfl

theorem leadingComments_of_blank (blank : BlankText)
    (ht : ∀ c, t.head? = some c → isBlank c = false ∧ c ≠ '/') :
    leadingComments (blank.1 ++ t) = (blank.1, t) := by
  have hall := allBlank_eq_true_iff.1 blank.2
  have hstop : ∀ c, t.head? = some c → isBlank c = false := fun c hc => (ht c hc).1
  rw [leadingComments]
  split
  · next lead rest h =>
    rw [leadingComment?_of_blank blank ht] at h
    cases h
  · rw [takeWhile_append_of_stop hall hstop, dropWhile_append_of_stop hall hstop]

theorem leadingComment?_written (blank : BlankText) {comment : Text} (h : IsDocText comment) (t : Text) :
    leadingComment? (blank.1 ++ (written comment ++ t)) = some (blank.1 ++ written comment, t) := by
  have hstop : ∀ c, (written comment ++ t).head? = some c → isBlank c = false := by
    intro c hc
    obtain rfl : '/' = c := Option.some.inj hc
    decide
  have hall := allBlank_eq_true_iff.1 blank.2
  have hshape : written comment ++ t = '/' :: '*' :: ('*' :: comment ++ ("*/".toList ++ t)) := by
    simp [written]
  have hcut : cut? "*/" ('*' :: comment ++ ("*/".toList ++ t)) = some ('*' :: comment, t) :=
    cut?_of_absent (by decide) h.not_closing_infix t
  unfold leadingComment?
  rw [takeWhile_append_of_stop hall hstop, dropWhile_append_of_stop hall hstop, hshape]
  simp only [hcut, Option.map_some, written]
  simp

/-- What stands in front of an entry is taken off. -/
theorem leadingComments_lead (lead : Lead)
    (ht : ∀ c, t.head? = some c → isBlank c = false ∧ c ≠ '/') :
    leadingComments (lead.text ++ t) = (lead.text, t) := by
  obtain ⟨blank, comment⟩ := lead
  cases comment with
  | none =>
    have h := leadingComments_of_blank blank ht
    simpa [Lead.text] using h
  | some comment =>
    obtain ⟨comment, behind⟩ := comment
    have hshape : (Lead.mk blank (some (comment, behind))).text ++ t =
        blank.1 ++ (written comment.1 ++ (behind.1 ++ t)) := by simp [Lead.text]
    rw [hshape, leadingComments]
    split
    · next lead rest h =>
      rw [leadingComment?_written blank comment.2] at h
      obtain ⟨rfl, rfl⟩ := Prod.mk.inj (Option.some.inj h)
      rw [leadingComments_of_blank behind ht]
      simp [Lead.text]
    · next h =>
      rw [leadingComment?_written blank comment.2] at h
      cases h

theorem description_lead (lead : Lead) :
    ((commentBefore? lead.text).map prose).getD [] = lead.found := by
  obtain ⟨blank, comment⟩ := lead
  cases comment with
  | none =>
    have hnone : commentBefore? (Lead.mk blank none).text = none := by
      apply DocComment.commentBefore?_eq_none
      have hstrip : stripRight ([] ++ blank.1) = [] := stripRight_append (by simp) blank.2
      rw [Lead.text, List.append_nil, ← List.nil_append blank.1, hstrip]
      decide
    rw [hnone]
    rfl
  | some comment =>
    obtain ⟨comment, behind⟩ := comment
    rw [Lead.text, comment.2.commentBefore?_written blank.1 behind.2]
    show prose (if "/*".toList <:+ comment.1 then [] else comment.1) =
      if "/*".toList <:+ comment.1 then [] else prose comment.1
    by_cases hend : "/*".toList <:+ comment.1
    · rw [if_pos hend, if_pos hend]
      decide
    · rw [if_neg hend, if_neg hend]

/-! ## Keys -/

/-- No word goes on behind a name. -/
theorem head?_behind_name (beforeColon : BlankText) (t : Text) :
    (beforeColon.1 ++ ':' :: t).head?.any isWord = false := by
  obtain ⟨blank, hblank⟩ := beforeColon
  cases blank with
  | nil => exact (by decide : isWord ':' = false)
  | cons c blank => exact isWord_of_isBlank (allBlank_eq_true_iff.1 hblank c List.mem_cons_self)

/-- A key is read by its word, whatever the other keys are. -/
theorem dropPrefix?_word (key key' : Key) (t : Text) :
    dropPrefix? key.word (key'.word ++ t) = if key' = key then some t else none := by
  by_cases h : key' = key
  · rw [h, dropPrefix?_append, if_pos rfl]
  · rw [if_neg h]
    cases key <;> cases key' <;> first | exact absurd rfl h | rfl

/-- The value behind a key. -/
theorem keyValue?_text (key : Key) (written : WrittenKey) :
    keyValue? key (leadingComments written.text).2 =
      if written.value.key = key then some written.value.text else none := by
  obtain ⟨-, hne, htrim⟩ := written.value.isExpression
  have hlead : (leadingComments written.text).2 = written.value.key.word ++ (written.beforeColon.1 ++
      ':' :: (written.afterColon.1 ++ (written.value.text ++ written.behind.1))) := by
    rw [WrittenKey.text, leadingComments_lead]
    intro c hc
    cases hkey : written.value.key <;> rw [hkey] at hc <;> obtain rfl := Option.some.inj hc <;> decide
  have hword : key.word.getLast?.any isWord = true := by cases key <;> decide
  rw [hlead, keyValue?, dropPrefix?_word]
  by_cases hkey : written.value.key = key
  · rw [if_pos hkey, if_pos hkey]
    simp only [boundary, head?_behind_name, hword, stripLeft_append_cons (c := ':') (by decide),
      Option.bind_eq_bind, Option.bind_some]
    simp [strip_between hne htrim written.afterColon.2 written.behind.2]
  · rw [if_neg hkey, if_neg hkey]
    rfl

/-- The texts of the segments are those of the parts. -/
theorem commaSegments_listed {parts : List Text} (hcode : ∀ part ∈ parts, Code true (· == ',') part)
    (hblank : ∀ part ∈ parts, allBlank part = false) (tail : Option BlankText) :
    (commaSegments (listed parts tail)).map Segment.text = parts := by
  have hparts : (parts.filter fun part => !allBlank part) = parts :=
    List.filter_eq_self.2 fun part hpart => by rw [hblank part hpart]; rfl
  have htail : ((tail.map Subtype.val).toList.filter fun part : Text => !allBlank part) = [] := by
    cases tail with
    | none => rfl
    | some blank => simp [blank.2]
  rw [commaSegments, listed, map_text_splitTopLevel_join isSeparator_comma (code_listed hcode tail),
    List.filter_append, hparts, htail, List.append_nil]

theorem commaSegments_keys (keys : List WrittenKey) (tail : Option BlankText) :
    (commaSegments (listed (keys.map WrittenKey.text) tail)).map Segment.text =
      keys.map WrittenKey.text := by
  apply commaSegments_listed
  · intro part hpart
    obtain ⟨key, -, rfl⟩ := List.mem_map.1 hpart
    exact key.code_text
  · intro part hpart
    obtain ⟨key, -, rfl⟩ := List.mem_map.1 hpart
    exact not_blank_of_mem (c := ':') (by decide) (by simp [WrittenKey.text])

/-- The first key of a kind gives its value. -/
theorem valueOf?_listed (key : Key) (keys : List WrittenKey) (tail : Option BlankText) :
    valueOf? key (listed (keys.map WrittenKey.text) tail) =
      keys.findSome? fun written => if written.value.key = key then some written.value.text else none := by
  have hmap := List.findSome?_map (f := Segment.text) (p := fun t => keyValue? key (leadingComments t).2)
    (l := commaSegments (listed (keys.map WrittenKey.text) tail))
  rw [valueOf?]
  refine hmap.symm.trans ?_
  rw [commaSegments_keys, List.findSome?_map]
  simp only [Function.comp_def, keyValue?_text]

/-- The text that stands for a required mark. -/
def markText (value : Bool) : Text := if value then "true" else "false"

theorem markText_beq (value : Bool) : (some (markText value) == some "true".toList) = value := by
  cases value <;> decide

theorem unquote_literal {quote : Char} {contents : Text} (hquote : isQuote quote = true)
    (hstrip : strip (quote :: (contents ++ [quote])) = quote :: (contents ++ [quote])) :
    unquote (quote :: (contents ++ [quote])) = contents := by
  have hlast : (contents ++ [quote]).getLast? = some quote := List.getLast?_concat
  have hdrop : (contents ++ [quote]).dropLast = contents := List.dropLast_concat
  rw [unquote, hstrip]
  cases h : contents ++ [quote] with
  | nil => simp at h
  | cons d t =>
    rw [h] at hlast hdrop
    simp [hquote, hlast, hdrop]

theorem unquote_expression (hstrip : t.strip = t)
    (hquotes : ∀ quote, isQuote quote = true → t.head? = some quote → t.getLast? ≠ some quote) :
    unquote t = t := by
  rw [unquote, hstrip]
  rcases t with _ | ⟨c, _ | ⟨d, t⟩⟩
  · rfl
  · rfl
  · have hno : ¬ (isQuote c && (d :: t).getLast? = some c) = true := by
      rw [Bool.and_eq_true, decide_eq_true_eq]
      rintro ⟨hquote, hlast⟩
      exact hquotes c hquote rfl (by rwa [List.getLast?_cons_cons])
    show (if isQuote c && (d :: t).getLast? = some c then (d :: t).dropLast else c :: d :: t) = _
    rw [if_neg hno]

/-- The value of a key is read as the part of it that the key is about. -/
theorem type?_eq (value : KeyValue) :
    value.type? = if value.key = .type then some value.text else none := by
  cases value <;> rfl

theorem default?_eq (value : KeyValue) :
    value.default? = (if value.key = .default then some value.text else none).map unquote := by
  have htrim := value.isExpression.trimmed
  cases value with
  | type t h => rfl
  | required value => rfl
  | literalDefault quote contents hquote h => exact congrArg some (unquote_literal hquote htrim).symm
  | default t h hquotes => exact congrArg some (unquote_expression htrim hquotes).symm

theorem required?_eq (value : KeyValue) :
    value.required?.map markText = if value.key = .required then some value.text else none := by
  cases value <;> rfl

/-- The object of an entry gives what its keys say. -/
theorem readDefinition_listed (keys : List WrittenKey) (tail : Option BlankText) :
    readDefinition (listed (keys.map WrittenKey.text) tail) =
      ((WrittenValue.definition keys tail).type, (WrittenValue.definition keys tail).default?,
        (WrittenValue.definition keys tail).required) := by
  have htype : valueOf? .type (listed (keys.map WrittenKey.text) tail) =
      keys.findSome? fun key => key.value.type? := by
    simp only [valueOf?_listed, type?_eq]
  have hdefault : (valueOf? .default (listed (keys.map WrittenKey.text) tail)).map unquote =
      keys.findSome? fun key => key.value.default? := by
    simp only [valueOf?_listed, default?_eq, List.map_findSome?]
    rfl
  have hrequired : valueOf? .required (listed (keys.map WrittenKey.text) tail) =
      (keys.findSome? fun key => key.value.required?).map markText := by
    simp only [valueOf?_listed, List.map_findSome?, ← required?_eq]
    rfl
  -- no expression is empty, so that what is found counts
  have hne : ∀ key, valueOf? key (listed (keys.map WrittenKey.text) tail) ≠ some [] := by
    intro key h
    rw [valueOf?_listed] at h
    obtain ⟨written, -, hvalue⟩ := List.exists_of_findSome?_eq_some h
    split at hvalue
    · exact written.value.isExpression.ne_nil (Option.some.inj hvalue)
    · cases hvalue
  rw [readDefinition, WrittenValue.type, WrittenValue.default?, WrittenValue.required, ← htype, ← hdefault,
    hrequired]
  refine Prod.ext ?_ (Prod.ext ?_ ?_)
  · cases hfound : valueOf? .type (listed (keys.map WrittenKey.text) tail) with
    | none => rfl
    | some t =>
      cases t with
      | nil => exact absurd hfound (hne .type)
      | cons c t => rfl
  · cases hfound : valueOf? .default (listed (keys.map WrittenKey.text) tail) with
    | none => rfl
    | some t =>
      cases t with
      | nil => exact absurd hfound (hne .default)
      | cons c t => rfl
  · cases keys.findSome? fun key => key.value.required? with
    | none => rfl
    | some value => exact markText_beq value

/-! ## Entries -/

/-- The value of an entry gives what is written in it. -/
theorem readValue_text (value : WrittenValue) :
    readValue value.text = (value.type, value.default?, value.required) := by
  cases value with
  | shorthand t h hbrace =>
    rw [WrittenValue.text]
    cases t with
    | nil => exact absurd rfl h.ne_nil
    | cons c t =>
      unfold readValue
      split
      · next he => cases he
      · next u he => exact absurd (by rw [he]; rfl) hbrace
      · next d u _ he =>
        rw [← he]
        rfl
  | definition keys tail =>
    have hcode : Code true (fun _ => false) (listed (keys.map WrittenKey.text) tail) := by
      refine code_join isSeparator_comma (code_listed ?_ tail)
      intro part hpart
      obtain ⟨key, -, rfl⟩ := List.mem_map.1 hpart
      exact key.code_text
    have hblock : balancedBlock? ('{' :: (listed (keys.map WrittenKey.text) tail ++ ['}'])) =
        some (listed (keys.map WrittenKey.text) tail, []) := balancedBlock?_code hcode .curly []
    rw [WrittenValue.text, readValue, hblock]
    exact readDefinition_listed keys tail

theorem strip_value (value : WrittenValue) : value.text ≠ [] ∧ value.text.strip = value.text := by
  cases value with
  | shorthand t h hbrace => exact ⟨h.ne_nil, h.trimmed⟩
  | definition keys tail =>
    refine ⟨List.cons_ne_nil _ _, strip_eq_self ?_ ?_⟩
    · intro c hc
      obtain rfl : '{' = c := Option.some.inj hc
      decide
    · intro c hc
      rw [WrittenValue.text, ← List.cons_append, List.getLast?_concat] at hc
      obtain rfl : '}' = c := Option.some.inj hc
      decide

/-- The quote in front of a name, if there is one, and the text behind it. -/
def splitQuote (t : Text) : Option Char × Text :=
  match t with
  | '\'' :: t => (some '\'', t)
  | '"' :: t => (some '"', t)
  | t => (none, t)

theorem entryAt?_eq (t : Text) : entryAt? t = (do
    let (quote, t) := splitQuote t
    guard (t.head?.any isIdentifierStart)
    let name := t.takeWhile fun c => isIdentifierChar c || c = '-'
    let t ← Text.dropPrefix? quote.toList (t.drop name.length)
    let t ← Text.dropPrefix? ":" (Text.stripLeft t)
    return (name, Text.stripLeft t)) := rfl

theorem splitQuote_quotedName (entry : WrittenEntry) (rest : Text) :
    splitQuote (entry.quotedName ++ rest) =
      (entry.quote, entry.name ++ (entry.quote.toList ++ rest)) := by
  obtain ⟨hhead, -⟩ := entry.isName
  rw [WrittenEntry.quotedName]
  cases hquote : entry.quote with
  | some q =>
    rcases entry.isQuote q hquote with rfl | rfl <;> simp [splitQuote]
  | none =>
    cases hname : entry.name with
    | nil =>
      rw [hname] at hhead
      cases hhead
    | cons c name =>
      rw [hname] at hhead
      have hstart : isIdentifierStart c = true := hhead
      unfold splitQuote
      split
      · next he =>
        obtain ⟨rfl, -⟩ := List.cons.inj he
        exact absurd hstart (by decide)
      · next he =>
        obtain ⟨rfl, -⟩ := List.cons.inj he
        exact absurd hstart (by decide)
      · simp

/-- What stands behind a name is none of it. -/
theorem not_name_of_behind {blank : BlankText} {c : Char} (h : (blank.1 ++ ':' :: t).head? = some c) :
    (isIdentifierChar c || c = '-') = false := by
  obtain ⟨blank, hblank⟩ := blank
  cases blank with
  | nil =>
    obtain rfl : ':' = c := Option.some.inj h
    decide
  | cons d blank =>
    obtain rfl : d = c := Option.some.inj h
    rw [Bool.eq_false_iff]
    intro hname
    have hd := allBlank_eq_true_iff.1 hblank d List.mem_cons_self
    rw [not_blank_of_name hname] at hd
    cases hd

/-- The name of an entry is read with its value. -/
theorem entryAt?_quotedName (entry : WrittenEntry) {value : Text} (hne : value ≠ [])
    (htrim : value.strip = value) :
    entryAt? (entry.quotedName ++ (entry.beforeColon.1 ++ ':' :: (entry.afterColon.1 ++
      (value ++ entry.behind.1)))) = some (entry.name, value ++ entry.behind.1) := by
  obtain ⟨hhead, hname⟩ := entry.isName
  have hvalue : stripLeft (entry.afterColon.1 ++ (value ++ entry.behind.1)) =
      value ++ entry.behind.1 := by
    refine stripLeft_append entry.afterColon.2 fun c hc => ?_
    rw [List.head?_append_of_ne_nil _ hne, ← htrim] at hc
    exact head?_strip_not_blank hc
  have hhead' : (entry.name ++ (entry.quote.toList ++ (entry.beforeColon.1 ++ ':' ::
      (entry.afterColon.1 ++ (value ++ entry.behind.1))))).head?.any isIdentifierStart = true := by
    cases hempty : entry.name with
    | nil =>
      rw [hempty] at hhead
      cases hhead
    | cons c name =>
      rw [hempty] at hhead
      exact hhead
  have htake : (entry.name ++ (entry.quote.toList ++ (entry.beforeColon.1 ++ ':' ::
      (entry.afterColon.1 ++ (value ++ entry.behind.1))))).takeWhile
        (fun c => isIdentifierChar c || c = '-') = entry.name := by
    -- the name ends at its quote, at the colon or at a blank in front of it
    refine takeWhile_append_of_stop hname fun d hd => ?_
    cases hquote : entry.quote with
    | some q =>
      rw [hquote] at hd
      obtain rfl : q = d := Option.some.inj hd
      rcases entry.isQuote q hquote with rfl | rfl <;> decide
    | none =>
      rw [hquote, Option.toList_none, List.nil_append] at hd
      exact not_name_of_behind hd
  rw [entryAt?_eq, splitQuote_quotedName]
  have hcolon (t : Text) : dropPrefix? ":" (':' :: t) = some t := dropPrefix?_append [':'] t
  simp only [hhead', htake, List.drop_left, dropPrefix?_append, stripLeft_append_cons (c := ':') (by decide),
    hcolon, hvalue, Option.bind_eq_bind, Option.bind_some]
  rfl

/-- What an entry is read as when its value is read as type, default and required mark. -/
def WrittenEntry.readAs (entry : WrittenEntry) (value : Text × Option Text × Bool) : Property where
  name := entry.name
  type := value.1
  default := value.2.1
  required := value.2.2
  description := entry.lead.found
  source := source

/-- An entry is read as its name, its value and its description say, whatever the value is. -/
theorem property?_withValue (entry : WrittenEntry) {value : Text} (hne : value ≠ [])
    (htrim : value.strip = value) :
    property? (entry.withValue value) = some (entry.readAs (readValue value)) := by
  have hlead : leadingComments (entry.withValue value) = (entry.lead.text, entry.quotedName ++
      (entry.beforeColon.1 ++ ':' :: (entry.afterColon.1 ++ (value ++ entry.behind.1)))) := by
    refine leadingComments_lead entry.lead fun d hd => ?_
    obtain ⟨c, t, he, hblank, hslash, -⟩ := entry.head_quotedName
      (entry.beforeColon.1 ++ ':' :: (entry.afterColon.1 ++ (value ++ entry.behind.1)))
    rw [he] at hd
    obtain rfl : c = d := Option.some.inj hd
    exact ⟨hblank, hslash⟩
  have hvalue : strip (value ++ entry.behind.1) = value :=
    strip_between (a := []) hne htrim rfl entry.behind.2
  rw [property?, hlead]
  simp only [entryAt?_quotedName entry hne htrim, hvalue, description_lead, Option.bind_eq_bind,
    Option.bind_some]
  rfl

/-- What an entry is read as: the property that it declares with the description that is found. -/
def WrittenEntry.read (entry : WrittenEntry) : Property :=
  { entry.property with description := entry.lead.found }

/-- An entry is read as the property that it declares. -/
theorem property?_text (entry : WrittenEntry) : property? entry.text = some entry.read := by
  obtain ⟨hne, htrim⟩ := strip_value entry.value
  refine (property?_withValue entry hne htrim).trans ?_
  rw [readValue_text]
  rfl

/-! ## Scripts -/

/-- The words in front of a declaration object. -/
inductive Opening where
  /-- The property `props` of a component object. -/
  | property (beforeColon afterColon : BlankText)
  /-- A call of `defineProps`. -/
  | call (beforeParenthesis afterParenthesis : BlankText)

/-- Their text. -/
def Opening.text : Opening → Text
  | .property beforeColon afterColon => "props" ++ (beforeColon.1 ++ ':' :: afterColon.1)
  | .call beforeParenthesis afterParenthesis =>
    "defineProps" ++ (beforeParenthesis.1 ++ '(' :: afterParenthesis.1)

/-- A script with a declaration object. -/
structure WrittenScript where
  /-- The text in front of the declaration. -/
  before : Text
  /-- The words in front of the object. -/
  opening : Opening
  /-- The entries of the object. -/
  entries : List WrittenEntry
  /-- What stands behind a comma at the end of the object. -/
  tail : Option BlankText
  /-- The text behind the object. -/
  after : Text
  /-- The first word of the declaration is not the end of another one. -/
  no_word : before.getLast?.any isWord = false
  /-- No declaration object starts in front of it. -/
  first : ∀ x y, before = x ++ y → y ≠ [] → objectHere? x.getLast?
    (y ++ (opening.text ++ '{' :: (listed (entries.map WrittenEntry.text) tail ++ '}' :: after))) = none

/-- Its text. -/
def WrittenScript.text (script : WrittenScript) : Text :=
  script.before ++ (script.opening.text ++
    '{' :: (listed (script.entries.map WrittenEntry.text) script.tail ++ '}' :: script.after))

/-- The properties that it declares, in order. -/
def WrittenScript.properties (script : WrittenScript) : List Property :=
  script.entries.map WrittenEntry.property

theorem objectHere?_opening (opening : Opening) {before : Option Char} (h : before.any isWord = false)
    (t : Text) : objectHere? before (opening.text ++ '{' :: t) = some ('{' :: t) := by
  cases opening with
  | property beforeColon afterColon =>
    have hshape : (Opening.property beforeColon afterColon).text ++ '{' :: t =
        "props" ++ (beforeColon.1 ++ ':' :: (afterColon.1 ++ '{' :: t)) := by
      show ("props".toList ++ (beforeColon.1 ++ ':' :: afterColon.1)) ++ '{' :: t = _
      rw [List.append_assoc, List.append_assoc]
      rfl
    have hboundary : boundary before ("props" ++ (beforeColon.1 ++ ':' ::
        (afterColon.1 ++ '{' :: t))).head? = true := by
      rw [boundary, h]
      exact (by decide : (false != isWord 'p') = true)
    have hcolon (t : Text) : dropPrefix? ":" (':' :: t) = some t := dropPrefix?_append [':'] t
    rw [hshape, objectHere?]
    simp only [hboundary, dropPrefix?_append, stripLeft_append_cons (c := ':') (by decide), hcolon,
      stripLeft_append_cons (c := '{') (by decide), Option.bind_eq_bind, Option.bind_some]
    rfl
  | call beforeParenthesis afterParenthesis =>
    have hshape : (Opening.call beforeParenthesis afterParenthesis).text ++ '{' :: t =
        "defineProps" ++ (beforeParenthesis.1 ++ '(' :: (afterParenthesis.1 ++ '{' :: t)) := by
      show ("defineProps".toList ++ (beforeParenthesis.1 ++ '(' :: afterParenthesis.1)) ++ '{' :: t = _
      rw [List.append_assoc, List.append_assoc]
      rfl
    have hboundary : boundary before ("defineProps" ++ (beforeParenthesis.1 ++ '(' ::
        (afterParenthesis.1 ++ '{' :: t))).head? = true := by
      rw [boundary, h]
      exact (by decide : (false != isWord 'd') = true)
    have hproperty : dropPrefix? "props" ("defineProps" ++ (beforeParenthesis.1 ++ '(' ::
        (afterParenthesis.1 ++ '{' :: t))) = none := rfl
    have hparenthesis (t : Text) : dropPrefix? "(" (dropTypeArguments ('(' :: t)) = some t :=
      dropPrefix?_append ['('] t
    rw [hshape, objectHere?]
    simp only [hboundary, hproperty, dropPrefix?_append, stripLeft_append_cons (c := '(') (by decide),
      hparenthesis, stripLeft_append_cons (c := '{') (by decide), Option.bind_eq_bind, Option.bind_some,
      Option.bind_none]
    rfl

/-- A declaration object is found, and read segment by segment, when it is written as segments with commas
between them. -/
theorem objectProperties_listed {before after : Text} {opening : Opening} {parts : List Text}
    {tail : Option BlankText} (hword : before.getLast?.any isWord = false)
    (hfirst : ∀ x y, before = x ++ y → y ≠ [] → objectHere? x.getLast?
      (y ++ (opening.text ++ '{' :: (listed parts tail ++ '}' :: after))) = none)
    (hcode : ∀ part ∈ parts, Code true (· == ',') part)
    (hblank : ∀ part ∈ parts, allBlank part = false) :
    objectProperties (before ++ (opening.text ++ '{' :: (listed parts tail ++ '}' :: after))) =
      parts.filterMap property? := by
  have hblock : balancedBlock? ('{' :: (listed parts tail ++ '}' :: after)) =
      some (listed parts tail, after) :=
    balancedBlock?_code (code_join isSeparator_comma (code_listed hcode tail)) .curly after
  have hsearch : search objectHere? none
      (before ++ (opening.text ++ '{' :: (listed parts tail ++ '}' :: after))) =
        some (before, '{' :: (listed parts tail ++ '}' :: after)) :=
    search_of_first_place hfirst (objectHere?_opening opening hword _)
  have hmap := List.filterMap_map (f := Segment.text) (g := property?)
    (l := commaSegments (listed parts tail))
  rw [objectProperties, declarationObject?, hsearch]
  simp only [hblock, Option.bind_eq_bind, Option.bind_some]
  refine hmap.symm.trans ?_
  rw [commaSegments_listed hcode hblank]

/-- **A declaration object is read as it is written.** The properties are those of the entries, in order,
with the descriptions that are found. -/
theorem objectProperties_text (script : WrittenScript) :
    objectProperties script.text = script.entries.map WrittenEntry.read := by
  have hcode : ∀ part ∈ script.entries.map WrittenEntry.text, Code true (· == ',') part :=
    List.forall_mem_map.2 fun entry _ => entry.code_text
  have hblank : ∀ part ∈ script.entries.map WrittenEntry.text, allBlank part = false :=
    List.forall_mem_map.2 fun entry _ => entry.not_blank_withValue _
  have hread : property? ∘ WrittenEntry.text = some ∘ WrittenEntry.read := by
    funext entry
    exact property?_text entry
  refine (objectProperties_listed script.no_word script.first hcode hblank).trans ?_
  rw [List.filterMap_map, hread, List.filterMap_eq_map]

theorem Lead.found_eq_description_iff (lead : Lead) :
    lead.found = lead.description ↔ ∀ comment blank, lead.comment = some (comment, blank) →
      "/*".toList <:+ comment.1 → prose comment.1 = [] := by
  obtain ⟨blank, comment⟩ := lead
  cases comment with
  | none =>
    constructor
    · intro _ comment behind he
      cases he
    · exact fun _ => rfl
  | some comment =>
    obtain ⟨comment, behind⟩ := comment
    show (if "/*".toList <:+ comment.1 then [] else prose comment.1) = prose comment.1 ↔ _
    constructor
    · rintro h comment' behind' he hend
      obtain ⟨rfl, rfl⟩ := Prod.mk.inj (Option.some.inj he)
      rw [if_pos hend] at h
      exact h.symm
    · intro h
      by_cases hend : "/*".toList <:+ comment.1
      · rw [if_pos hend, h comment behind rfl hend]
      · rw [if_neg hend]

theorem WrittenEntry.read_eq_property_iff (entry : WrittenEntry) :
    entry.read = entry.property ↔ entry.lead.found = entry.lead.description := by
  constructor
  · exact fun h => congrArg Property.description h
  · intro h
    rw [WrittenEntry.read, h]
    rfl

/-- **The properties are those that are written** exactly when no comment whose text ends in the opening of
a comment says anything before its first tag: of such a comment nothing is found. -/
theorem objectProperties_text_iff (script : WrittenScript) :
    objectProperties script.text = script.properties ↔
      ∀ entry ∈ script.entries, ∀ comment blank, entry.lead.comment = some (comment, blank) →
        "/*".toList <:+ comment.1 → prose comment.1 = [] := by
  rw [objectProperties_text, WrittenScript.properties, List.map_inj_left]
  simp only [WrittenEntry.read_eq_property_iff, Lead.found_eq_description_iff]

/-! ## Two scripts -/

/-- A name of a type. -/
theorem isExpression_of_letters (h : t.all fun c => c ∉ ',' :: specialChars && !isBlank c)
    (hne : t ≠ []) : IsExpression t := by
  have hall : ∀ c ∈ t, c ∉ ',' :: specialChars ∧ isBlank c = false := by
    intro c hc
    simpa using List.all_eq_true.1 h c hc
  refine ⟨.of_inert fun c hc => ?_, hne, strip_eq_self (fun c hc => (hall c (List.mem_of_head? hc)).2)
    fun c hc => (hall c (List.mem_of_getLast? hc)).2⟩
  have hno := (hall c hc).1
  rw [List.mem_cons, not_or] at hno
  exact ⟨hno.2, beq_eq_false_iff_ne.2 hno.1⟩

/-- A factory as default: its commas stand in brackets. -/
theorem isExpression_factory : IsExpression "() => [1, 2]" := by
  have hbody : Code false (fun _ => false) "1, 2" := .of_inert (by decide)
  have hlist : Code false (· == ',') "[1, 2]" := .block .square hbody .nil
  have hcode : Code false (· == ',') "() => [1, 2]" :=
    .block .round .nil (.inert_append (a := " => ") (by decide) hlist)
  exact ⟨hcode, by decide, by decide⟩

theorem quotes_factory (quote : Char) (hquote : isQuote quote = true)
    (hhead : ("() => [1, 2]" : Text).head? = some quote) :
    ("() => [1, 2]" : Text).getLast? ≠ some quote := by
  obtain rfl : '(' = quote := Option.some.inj hhead
  exact absurd hquote (by decide)

/-- An entry with all keys behind a comment, and a shorthand. -/
def sampleScript : WrittenScript where
  before := "export default "
  opening := .call noBlank space
  entries := [
    { lead := ⟨space, some (⟨" The items.\n", ⟨_, _, rfl, by decide⟩, by decide, by decide⟩, space)⟩
      quote := some '\'', name := "data-items", beforeColon := noBlank, afterColon := space
      value := .definition [
          ⟨⟨space, none⟩, .type "Array" (isExpression_of_letters (by decide) (by decide)),
            noBlank, space, noBlank⟩,
          ⟨⟨space, none⟩, .default "() => [1, 2]" isExpression_factory quotes_factory, noBlank, space, noBlank⟩,
          ⟨⟨space, none⟩, .required true, noBlank, space, space⟩] none
      behind := noBlank, isName := ⟨by decide, by decide⟩, isQuote := by decide },
    { lead := ⟨space, none⟩
      quote := none, name := "size", beforeColon := noBlank, afterColon := space
      value := .shorthand "Number" (isExpression_of_letters (by decide) (by decide)) (by decide)
      behind := space, isName := ⟨by decide, by decide⟩, isQuote := by decide }]
  tail := none
  after := ")"
  no_word := by decide
  first := none_of_search (by decide)

theorem objectProperties_sampleScript : objectProperties sampleScript.text = [
    ⟨"data-items", "Array", true, some "() => [1, 2]", "The items.", "options"⟩,
    ⟨"size", "Number", false, none, "", "options"⟩] := by
  have hread := (objectProperties_text_iff sampleScript).2 fun entry hentry comment blank he hend => by
    rcases List.mem_cons.1 hentry with rfl | hentry
    · obtain ⟨rfl, -⟩ := Prod.mk.inj (Option.some.inj he)
      exact absurd hend (by decide)
    · obtain rfl := List.mem_singleton.1 hentry
      cases he
  rw [hread]
  decide

/-- A comment that ends in the opening of a comment. -/
def cutCommentScript : WrittenScript where
  before := []
  opening := .property noBlank space
  entries := [
    { lead := ⟨space, some (⟨" a/*", ⟨_, _, rfl, by decide⟩, by decide, by decide⟩, space)⟩
      quote := none, name := "x", beforeColon := noBlank, afterColon := space
      value := .shorthand "String" (isExpression_of_letters (by decide) (by decide)) (by decide)
      behind := space, isName := ⟨by decide, by decide⟩, isQuote := by decide }]
  tail := none
  after := []
  no_word := by decide
  first := none_of_search (by decide)

/-- Of that comment nothing is found. -/
theorem objectProperties_cutCommentScript :
    objectProperties cutCommentScript.text = [⟨"x", "String", false, none, "", "options"⟩] ∧
      cutCommentScript.properties = [⟨"x", "String", false, none, "a/*", "options"⟩] := by
  rw [objectProperties_text]
  decide

end ComponentBook.ObjectDeclaration
