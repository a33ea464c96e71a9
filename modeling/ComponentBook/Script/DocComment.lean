import ComponentBook.Text.Blank
import ComponentBook.Text.Lines
import ComponentBook.Text.Word

/-! # Documentation comments

The lines of a documentation comment may be decorated with an asterisk. **`undecorate`** takes the
decoration off, **`prose`** is the comment as one line up to its first tag, **`tagValue?`** the value
of a tag, and **`commentBefore?`** the comment that ends right before a place. The
**`description`** of a script is the prose of its first documentation comment that opens at the end
of a line. -/

namespace ComponentBook.Script.DocComment

/-- A line behind its decoration: blank characters, an asterisk that does not close a comment, and
at most one blank character. -/
def dropDecoration? (line : Text) : Option Text :=
  match line.stripLeft with
  | '*' :: '/' :: _ => none
  | '*' :: c :: t => some (if Text.isBlank c then t else c :: t)
  | ['*'] => some []
  | _ => none

/-- A line without its decoration, if it has one. -/
def undecorateLine (line : Text) : Text := (dropDecoration? line).getD line

/-- A text without the decoration of its lines, provided that there is a line that is not blank and
that every such line is decorated. -/
def undecorate (t : Text) : Text :=
  let content := t.lines.filter fun l => !l.allBlank
  -- a single line with text but no decoration, and the asterisks are a part of the text
  if !content.isEmpty && content.all fun l => (dropDecoration? l).isSome then
    Text.join ['\n'] (t.lines.map undecorateLine)
  else t

/-- The body of a comment on one line, up to the first line that starts with a tag. -/
def prose (body : Text) : Text :=
  let lines := body.lines.map fun l => (undecorateLine l).strip
  Text.collapse (Text.join [' '] (lines.takeWhile fun l => l.head? ≠ some '@'))

/-- What follows the tag named `tag` on a line that starts with it. -/
def afterTag? (tag line : Text) : Option Text :=
  match Text.dropPrefix? ('@' :: tag) line with
  | none => none
  | some rest =>
    if Text.boundary ('@' :: tag).getLast? rest.head? then some rest else none

/-- A value without the blank characters at its ends and the end of the comment behind it. -/
def trimTagValue (value : Text) : Text :=
  (value.strip.dropRightWhile fun c => c = '*' || c = '/').strip

/-- The value of the first line of a comment with the tag named `tag`; `none` when there is no such
line or it has no value. -/
def tagValue? (tag body : Text) : Option Text :=
  match body.lines.findSome? fun l => afterTag? tag (undecorateLine l).strip with
  | none => none
  -- the first line with the tag decides, also when it has no value
  | some rest =>
    let value := trimTagValue rest
    if value.isEmpty then none else some value

/-- What follows the last occurrence of `needle` in a text. -/
def afterLast? (needle : Text) : Text → Option Text
  | [] => Text.dropPrefix? needle []
  | c :: t => (afterLast? needle t).or (Text.dropPrefix? needle (c :: t))

/-- The body of the documentation comment that ends the text `before`, blank characters behind it
left aside. -/
def commentBefore? (before : Text) : Option Text :=
  let head := before.stripRight
  if head.endsWith "*/" then
    match afterLast? "/**" head with
    | none => none
    | some rest =>
      -- without the two characters that close the comment
      let body := rest.take (rest.length - 2)
      -- a closing inside means that the opening belongs to an earlier comment
      if Text.contains body "*/" then none else some body
  else none

end ComponentBook.Script.DocComment

namespace ComponentBook.Script

/-- The body of a documentation comment at the start of a text whose opening is followed by a line
end. -/
def openComment? (t : Text) : Option Text := do
  let t ← Text.dropPrefix? "/**" t
  -- a comment with text behind its opening is passed over
  let t ← match t.dropWhile Text.isSpaceOrTab with
    | '\r' :: '\n' :: t => some t
    | '\n' :: t => some t
    | _ => none
  let (body, _) ← Text.cut? "*/" t
  return body

/-- The prose of the first such comment; empty when there is none. -/
def description (script : Text) : Text :=
  match Text.search (fun _ t => openComment? t) none script with
  | none => []
  | some (_, body) => DocComment.prose body

end ComponentBook.Script
