import ComponentBook.Text.Blank
import ComponentBook.Text.Word

/-! # Tags of a template

A template is read as texts, comments and tags. **`token?`** reads a comment or a tag at the start
of a text; the attributes of a tag may hold any character inside quotes. **`tags`** are the tags of
a text with their places. -/

namespace ComponentBook.Markup

/-- Elements that are never closed. -/
def voidElements : List Text :=
  ["area".toList, "base".toList, "br".toList, "col".toList, "embed".toList, "hr".toList,
    "img".toList, "input".toList, "link".toList, "meta".toList, "source".toList, "track".toList,
    "wbr".toList]

/-- An opening or closing tag. -/
structure Tag where
  /-- Whether a slash stands in front of the name. -/
  closing : Bool
  /-- The name of the element. -/
  name : Text
  /-- The text between the name and the end of the tag. -/
  attrs : Text
  deriving DecidableEq, Repr

/-- A tag that opens nothing: it ends in a slash, or its element is never closed. -/
def Tag.selfClosing (tag : Tag) : Bool :=
  tag.attrs.stripRight.endsWith ['/'] || voidElements.contains tag.name

/-- A comment or a tag. -/
inductive Token where
  /-- A comment. -/
  | comment
  /-- A tag. -/
  | tag (tag : Tag)
  deriving DecidableEq, Repr

/-- An ASCII letter. -/
def isLetter (c : Char) : Bool := ('A' ≤ c && c ≤ 'Z') || ('a' ≤ c && c ≤ 'z')

/-- A character of an element's name behind its first letter. -/
def isNameChar (c : Char) : Bool := Text.isWord c || c = '.' || c = ':' || c = '-'

/-- The text up to the bracket that ends a tag, and the text after it; `quote` is the quote that is
open. -/
def attributes? (quote : Option Char) : Text → Option (Text × Text)
  | [] => none
  | c :: t =>
    match quote with
    | some q => (attributes? (if c = q then none else some q) t).map fun (a, rest) => (c :: a, rest)
    | none =>
      if c = '>' then some ([], t)
      else
        (attributes? (if c = '"' || c = '\'' then some c else none) t).map fun (a, rest) =>
          (c :: a, rest)

/-- A tag at the start of a text, and the text after it. -/
def tag? (t : Text) : Option (Tag × Text) := do
  let t ← Text.dropPrefix? "<" t
  let (closing, t) := match t with
    | '/' :: u => (true, u)
    | u => (false, u)
  -- a bracket in front of anything else, such as a comparison, opens no tag
  guard (t.head?.any isLetter)
  let name := t.takeWhile isNameChar
  let (attrs, rest) ← attributes? none (t.drop name.length)
  return ({ closing, name, attrs }, rest)

/-- A comment at the start of a text: the text after it. -/
def comment? (t : Text) : Option Text := do
  let t ← Text.dropPrefix? "<!--" t
  let (_, rest) ← Text.cut? "-->" t
  return rest

/-- A comment or a tag at the start of a text, and the text after it. -/
def token? (t : Text) : Option (Token × Text) :=
  match comment? t with
  | some rest => some (.comment, rest)
  | none => (tag? t).map fun (tag, rest) => (.tag tag, rest)

/-- A part of a text from `start` up to and without `stop`. -/
structure Span where
  /-- The number of characters in front of the part. -/
  start : Nat
  /-- The number of characters up to the end of the part. -/
  stop : Nat
  deriving DecidableEq, Repr

/-- The number of characters of a part. -/
def Span.length (s : Span) : Nat := s.stop - s.start

/-- A token at the start of a text, its length, and the text after it. -/
def sizedToken? (t : Text) : Option ((Token × Nat) × Text) :=
  (token? t).map fun (token, rest) => ((token, t.length - rest.length), rest)

/-- The tags among tokens that are given with the text in front of each. -/
def placeTags (offset : Nat) : List (Text × Token × Nat) → List (Span × Tag)
  | [] => []
  | (before, token, size) :: rest =>
    let start := offset + before.length
    let others := placeTags (start + size) rest
    match token with
    | .comment => others
    | .tag tag => (⟨start, start + size⟩, tag) :: others

/-- The tags of a text with their places, comments left aside. -/
def tags (t : Text) : List (Span × Tag) := placeTags 0 (Text.occurrences sizedToken? t)

end ComponentBook.Markup
