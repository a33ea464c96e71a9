import ComponentBook.Script.Segment
import ComponentBook.Text.Word

/-! # The name of a component

**`componentName`** is the name that a script declares: the `name` entry at the top level of its
component object if there is one, else the first `name` with a quoted value anywhere, else the name
that the caller falls back to. -/

namespace ComponentBook.Script

/-- The value of `name: '…'` or `name: "…"` at the start of a text, `before` being the character in
front of it. The value is not empty and holds neither quote. -/
def quotedName? (before : Option Char) (t : Text) : Option Text := do
  guard (Text.boundary before t.head?)
  let t ← Text.dropPrefix? "name" t
  let t ← Text.dropPrefix? ":" (Text.stripLeft t)
  match Text.stripLeft t with
  | [] => none
  | quote :: t =>
    guard (quote = '\'' || quote = '"')
    -- the value ends at the first quote of either kind, which has to be the one that opened it
    let value := t.takeWhile fun c => c ≠ '\'' && c ≠ '"'
    guard (!value.isEmpty && (t.drop value.length).head? = some quote)
    return value

/-- What follows `defineComponent (`, or the text itself. -/
def dropDefineComponent (t : Text) : Text :=
  (do
    let t ← Text.dropPrefix? "defineComponent" t
    let t ← Text.dropPrefix? "(" (Text.stripLeft t)
    return Text.stripLeft t).getD t

/-- The text from the opening brace on of a component object at the start of a text: an object that
is exported as default, as such or through `defineComponent`, or handed to `defineOptions`. -/
def componentObject? (t : Text) : Option Text := do
  let rest ←
    (do
      let t ← Text.dropPrefix? "export" t
      let t ← Text.dropPrefix? "default" (← Text.dropBlanks? t)
      return dropDefineComponent (Text.stripLeft t)) <|>
    (do
      let t ← Text.dropPrefix? "defineOptions" t
      let t ← Text.dropPrefix? "(" (Text.stripLeft t)
      return Text.stripLeft t)
  guard (rest.head? = some '{')
  return rest

/-- The first `name` entry with a value that is not blank, at the top level of the first component
object of a script. -/
def declaredName? (script : Text) : Option Text := do
  let (_, object) ← Text.search (fun _ t => componentObject? t) none script
  let (body, _) ← balancedBlock? object
  (commaSegments body).findSome? fun segment => do
    let value ← quotedName? none segment.text.strip
    -- a blank name is passed over, and the next entry is looked at
    guard (!value.strip.isEmpty)
    return value.strip

/-- The value of the first quoted `name` of a script, if it is not blank. -/
def firstName? (script : Text) : Option Text := do
  let (_, value) ← Text.search quotedName? none script
  -- here a blank name is not passed over: it ends the search
  guard (!value.strip.isEmpty)
  return value.strip

/-- The name of the component that a script defines. -/
def componentName (script fallback : Text) : Text :=
  ((declaredName? script).or (firstName? script)).getD fallback

end ComponentBook.Script
