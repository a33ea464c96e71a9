import ComponentBook.Script.DocComment
import ComponentBook.Script.Lexeme

/-! # The example of a component

**`example?`** is the fenced block that follows the first `@example` tag of a script which has one:
its text as it stands, without the decoration of a comment and without blank characters at its
ends. -/

namespace ComponentBook.Script

/-- The three backquotes of a fence. -/
def fence : Text := [backquote, backquote, backquote]

/-- What follows a line end after an `@example` tag: the text behind the decoration of the next
line. -/
def dropExampleDecoration (t : Text) : Text :=
  match t.dropWhile Text.isSpaceOrTab with
  | '*' :: t => t.dropWhile Text.isSpaceOrTab
  | t => t

/-- The text between the fences of an `@example` tag at the start of a text. -/
def fencedExample? (t : Text) : Option Text := do
  let t ← Text.dropPrefix? "@example" t
  -- a longer word is another tag
  guard (Text.boundary (some 'e') t.head?)
  -- the fence may stand on the line of the tag or start the next one
  let t := match t.dropWhile fun c => c ≠ '\n' && c ≠ backquote with
    | '\n' :: t => dropExampleDecoration t
    | t => t
  let t ← Text.dropPrefix? fence t
  -- the language of the fence, and the end of its line
  let t := (t.dropWhile fun c => Text.isWord c || c = '-').dropWhile Text.isSpaceOrTab
  let t := (Text.dropPrefix? ['\r'] t).getD t
  let t := (Text.dropPrefix? ['\n'] t).getD t
  let (body, _) ← Text.cut? fence t
  return body

/-- The example of a script; `none` when it has none or only a blank one. -/
def example? (script : Text) : Option Text := do
  let (_, body) ← Text.search (fun _ t => fencedExample? t) none script
  let text := Text.strip
    -- what stands on the line in front of the closing fence is decoration
    (DocComment.undecorate (body.dropRightWhile fun c => Text.isSpaceOrTab c || c = '*'))
  guard (!text.isEmpty)
  return text

end ComponentBook.Script
