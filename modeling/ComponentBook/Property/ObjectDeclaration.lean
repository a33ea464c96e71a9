import ComponentBook.Property.Basic
import ComponentBook.Script.DocComment
import ComponentBook.Script.Literal
import ComponentBook.Script.Segment

/-! # Properties declared by an object

A script may declare its properties by an object: `props: { … }` or `defineProps({ … })`. Each entry
is a name with a type, or a name with an object that gives `type`, `default` and `required`.
**`declarationObject?`** finds the object, **`objectProperties`** reads its entries. -/

namespace ComponentBook.ObjectDeclaration

open Script

/-- The kind of declaration, as properties name it. -/
def source : Text := "options"

/-- A character that an identifier can start with. -/
def isIdentifierStart (c : Char) : Bool :=
  ('A' ≤ c && c ≤ 'Z') || ('a' ≤ c && c ≤ 'z') || c = '_' || c = '$'

/-- A character inside an identifier. -/
def isIdentifierChar (c : Char) : Bool := Text.isWord c || c = '$'

/-- What follows a list of type arguments, if the text starts with one that is closed. -/
def dropTypeArguments (t : Text) : Text :=
  match t with
  | '<' :: t =>
    match t.dropWhile (· ≠ '>') with
    | '>' :: t => Text.stripLeft t
    -- a list that is not closed stays, and then no parenthesis follows
    | _ => '<' :: t
  | t => t

/-- The text from its opening brace on of a declaration object at the start of a text, `before`
being the character in front of it. -/
def objectHere? (before : Option Char) (t : Text) : Option Text := do
  guard (Text.boundary before t.head?)
  let rest ←
    (do
      let t ← Text.dropPrefix? "props" t
      let t ← Text.dropPrefix? ":" (Text.stripLeft t)
      return Text.stripLeft t) <|>
    (do
      let t ← Text.dropPrefix? "defineProps" t
      let t ← Text.dropPrefix? "(" (dropTypeArguments (Text.stripLeft t))
      return Text.stripLeft t)
  guard (rest.head? = some '{')
  return rest

/-- The text inside the first declaration object of a script. -/
def declarationObject? (script : Text) : Option Text := do
  let (_, object) ← Text.search objectHere? none script
  let (body, _) ← balancedBlock? object
  return body

/-- A comment at the start of a text behind blank characters, and the text after it. A block comment
has to be closed. -/
def leadingComment? (t : Text) : Option (Text × Text) :=
  let blank := t.takeWhile Text.isBlank
  match t.dropWhile Text.isBlank with
  | '/' :: '/' :: r =>
    some (blank ++ '/' :: '/' :: r.takeWhile (· ≠ '\n'), r.dropWhile (· ≠ '\n'))
  | '/' :: '*' :: r =>
    (Text.cut? "*/" r).map fun (body, rest) => (blank ++ '/' :: '*' :: body ++ "*/", rest)
  | _ => none

theorem append_of_leadingComment? {t a b : Text} (h : leadingComment? t = some (a, b)) :
    a ++ b = t := by
  have hsplit := List.takeWhile_append_dropWhile (p := Text.isBlank) (l := t)
  unfold leadingComment? at h
  split at h
  · next r hr =>
    obtain ⟨rfl, rfl⟩ := Prod.mk.inj (Option.some.inj h)
    rw [hr] at hsplit
    simpa using hsplit
  · next r hr =>
    obtain ⟨⟨body, rest⟩, hc, he⟩ := Option.map_eq_some_iff.1 h
    obtain ⟨rfl, rfl⟩ := Prod.mk.inj he
    rw [hr, Text.eq_append_of_cut? hc] at hsplit
    simpa using hsplit
  · simp at h

theorem leadingComment?_ne_nil {t a b : Text} (h : leadingComment? t = some (a, b)) : a ≠ [] := by
  unfold leadingComment? at h
  split at h
  · obtain ⟨rfl, -⟩ := Prod.mk.inj (Option.some.inj h)
    simp
  · obtain ⟨_, -, he⟩ := Option.map_eq_some_iff.1 h
    obtain ⟨rfl, -⟩ := Prod.mk.inj he
    simp
  · simp at h

/-- The blank characters and comments at the start of a segment, and the text after them. -/
def leadingComments (t : Text) : Text × Text :=
  match _ : leadingComment? t with
  | some (lead, rest) =>
    let (leads, rest) := leadingComments rest
    (lead ++ leads, rest)
  | none => (t.takeWhile Text.isBlank, t.dropWhile Text.isBlank)
termination_by t.length
decreasing_by
  have h := ‹leadingComment? t = some (lead, rest)›
  have happ := congrArg List.length (append_of_leadingComment? h)
  have hpos := List.length_pos_iff.2 (leadingComment?_ne_nil h)
  simp only [List.length_append] at happ
  omega

/-- The name of an entry, in quotes or not, and the text of its value. -/
def entryAt? (t : Text) : Option (Text × Text) := do
  let (quote, t) := match t with
    | '\'' :: t => (some '\'', t)
    | '"' :: t => (some '"', t)
    | t => (none, t)
  guard (t.head?.any isIdentifierStart)
  let name := t.takeWhile fun c => isIdentifierChar c || c = '-'
  -- the quote that opens the name has to close it
  let t ← Text.dropPrefix? quote.toList (t.drop name.length)
  let t ← Text.dropPrefix? ":" (Text.stripLeft t)
  return (name, Text.stripLeft t)

/-- The keys of an entry's object that are read. -/
inductive Key where
  /-- The type of the property. -/
  | type
  /-- Its default. -/
  | default
  /-- Whether a value has to be given. -/
  | required
  deriving DecidableEq, Repr

/-- The word for a key. -/
def Key.word : Key → Text
  | .type => "type"
  | .default => "default"
  | .required => "required"

/-- The value of `key` at the start of a segment: what follows a colon, or a method from its opening
parenthesis on. -/
def keyValue? (key : Key) (t : Text) : Option Text := do
  let t ← Text.dropPrefix? key.word t
  guard (Text.boundary key.word.getLast? t.head?)
  match Text.stripLeft t with
  | ':' :: t => some (Text.strip t)
  | '(' :: t => some (Text.strip ('(' :: t))
  | _ => none

/-- The value of the first segment of an entry's object with the key `key`. -/
def valueOf? (key : Key) (definition : Text) : Option Text :=
  (commaSegments definition).findSome? fun s => keyValue? key (leadingComments s.text).2

/-- Type, default and required mark of an entry whose object holds `definition`. -/
def readDefinition (definition : Text) : Text × Option Text × Bool :=
  let type := match valueOf? .type definition with
    -- a key with nothing behind its colon counts as one that is missing
    | some (c :: t) => c :: t
    | _ => "any".toList
  let default := match valueOf? .default definition with
    | some (c :: t) => some (unquote (c :: t))
    | _ => none
  (type, default, valueOf? .required definition == some "true".toList)

/-- Type, default and required mark of an entry with the given value. -/
def readValue (value : Text) : Text × Option Text × Bool :=
  match value with
  | [] => ("any", none, false)
  | '{' :: t =>
    match balancedBlock? ('{' :: t) with
    | some (definition, _) => readDefinition definition
    -- an object that is not closed is read up to the end of its segment
    | none => readDefinition t
  | c :: t => (c :: t, none, false)

/-- The property that a segment of a declaration object declares. -/
def property? (segment : Text) : Option Property := do
  let (lead, t) := leadingComments segment
  let (name, value) ← entryAt? t
  let (type, default, required) := readValue value.strip
  return {
    name, type, default, required
    description := ((DocComment.commentBefore? lead).map DocComment.prose).getD []
    source }

/-- The properties that the first declaration object of a script declares, in order. -/
def objectProperties (script : Text) : List Property :=
  match declarationObject? script with
  | none => []
  | some body => (commaSegments body).filterMap fun s => property? s.text

end ComponentBook.ObjectDeclaration
