import ComponentBook.Text.Blank
import ComponentBook.Text.Caseless
import ComponentBook.Text.Lower
import ComponentBook.Text.Word

/-! # The zones of a component file

A component file holds a script, a template and styles, each between an opening and a closing tag;
tag names are read without regard to case. **`SourceZones.ofText`** finds the first script, the
outermost template and every style. The script is hidden while the template is looked for, since its
comments may hold template tags of their own. -/

namespace ComponentBook

/-- A style of a component file. -/
structure StyleZone where
  /-- The attributes of the opening tag, without blank characters at the ends. -/
  attrs : Text
  /-- The text between the tags. -/
  content : Text
  deriving DecidableEq, Repr

/-- The three regions of a component file; a region that is missing is empty. -/
structure SourceZones where
  /-- The text of the first script. -/
  script : Text := []
  /-- The attributes of its opening tag, without blank characters at the ends. -/
  scriptAttrs : Text := []
  /-- The text of the outermost template. -/
  template : Text := []
  /-- The styles in the order of the file. -/
  styles : List StyleZone := []
  deriving DecidableEq, Repr

namespace SourceZones

/-- A tag name, read without regard to case, at whose end a word ends, and the text after it. -/
def tagName? (name t : Text) : Option Text := do
  let t ← Text.dropWordCaseless? name t
  guard (!t.head?.any Text.isWord)
  return t

/-- The closing tag of `name` at the start of a text, and the text after it. -/
def closingTag? (name t : Text) : Option Text := do
  let t ← Text.dropPrefix? "</" t
  let t ← Text.dropWordCaseless? name t
  Text.dropPrefix? ">" (Text.stripLeft t)

/-- The attributes of an opening tag and the text between it and the first closing tag. -/
structure Block where
  /-- The text behind the tag name. -/
  attrs : Text
  /-- The text between the tags. -/
  body : Text
  deriving DecidableEq, Repr

/-- A block of the tag `name` at the start of a text, and the text after it. -/
def block? (name t : Text) : Option (Block × Text) := do
  let t ← Text.dropPrefix? "<" t
  let t ← tagName? name t
  -- the first bracket ends the tag, even one inside quotes
  let attrs := t.takeWhile (· ≠ '>')
  let t ← Text.dropPrefix? ">" (t.drop attrs.length)
  let (body, rest) ← Text.search (fun _ u => closingTag? name u) none t
  return ({ attrs, body }, rest)

/-- The part that a template tag plays. -/
inductive TemplateTagKind where
  /-- It opens a template. -/
  | opening
  /-- It closes a template. -/
  | closing
  /-- It ends in a slash and does neither. -/
  | selfClosing
  deriving DecidableEq, Repr

/-- A template tag as it is written. -/
structure TemplateTag where
  /-- The part it plays. -/
  kind : TemplateTagKind
  /-- Its text. -/
  text : Text
  deriving DecidableEq, Repr

/-- A template tag at the start of a text, and the text after it. -/
def templateTag? (t : Text) : Option (TemplateTag × Text) := do
  let inner ← Text.dropPrefix? "<" t
  let (closes, inner) := match inner with
    | '/' :: u => (true, u)
    | u => (false, u)
  let attrs ← tagName? "template" inner
  let rest ← Text.dropPrefix? ">" (attrs.dropWhile (· ≠ '>'))
  let kind : TemplateTagKind :=
    -- a slash at the end counts for more than one in front
    if (attrs.takeWhile (· ≠ '>')).getLast? = some '/' then .selfClosing
    else if closes then .closing else .opening
  return ({ kind, text := t.take (t.length - rest.length) }, rest)

/-- The text up to the tag that closes the outermost open template, `depth` templates being open
inside it. Each tag is given with the text in front of it. -/
def templateBody? (depth : Nat) : List (Text × TemplateTag) → Option Text
  | [] => none
  | (before, tag) :: rest =>
    match tag.kind, depth with
    | .selfClosing, depth => (templateBody? depth rest).map (before ++ tag.text ++ ·)
    | .opening, depth => (templateBody? (depth + 1) rest).map (before ++ tag.text ++ ·)
    | .closing, 0 => some before
    | .closing, depth + 1 => (templateBody? depth rest).map (before ++ tag.text ++ ·)

/-- The text of the template that the first opening tag opens. -/
def firstTemplate? : List (Text × TemplateTag) → Option Text
  | [] => none
  | (_, tag) :: rest =>
    if tag.kind = .opening then templateBody? 0 rest else firstTemplate? rest

/-- The text of the outermost template; empty when there is none or it is not closed. -/
def outerTemplate (t : Text) : Text :=
  (firstTemplate? (Text.occurrences templateTag? t)).getD []

/-- The styles of a file in order. -/
def styleZones (t : Text) : List StyleZone :=
  (Text.occurrences (block? "style") t).map fun (_, style) =>
    { attrs := style.attrs.strip, content := style.body }

/-- The zones of a file. -/
def ofText (t : Text) : SourceZones :=
  match Text.search (fun _ u => block? "script" u) none t with
  | none => { template := outerTemplate t, styles := styleZones t }
  | some (before, script, rest) =>
    -- blanks of the same length, lest a tag be made of what stands around the script
    let hidden := List.replicate (t.length - before.length - rest.length) ' '
    { script := script.body
      scriptAttrs := script.attrs.strip
      template := outerTemplate (before ++ hidden ++ rest)
      styles := styleZones t }

end SourceZones

/-- The value of a `lang` attribute at the start of a text, `before` being the character in front of
it: word characters and hyphens, in quotes or not. -/
def langHere? (before : Option Char) (t : Text) : Option Text := do
  guard (Text.boundary before t.head?)
  let t ← Text.dropWordCaseless? "lang" t
  let t ← Text.dropPrefix? "=" (Text.stripLeft t)
  -- the quote that closes the value is not looked for
  let t := match Text.stripLeft t with
    | '"' :: u => u
    | '\'' :: u => u
    | u => u
  let lang := t.takeWhile fun c => Text.isWord c || c = '-'
  guard (!lang.isEmpty)
  return lang

/-- The language that a style declares, in lower case. -/
def StyleZone.lang? (zone : StyleZone) : Option Text :=
  (Text.search langHere? none zone.attrs).map fun (_, lang) => lang.lower

end ComponentBook
