import ComponentBook.Property.ObjectDeclaration

/-! # Defaults assigned apart from the declaration

A property of an interface gets its default from an object elsewhere in the script.
**`assignedDefault?`** is the value of the first entry of a given name in a text, and
**`defaultsScope`** the text to look in. -/

namespace ComponentBook.AssignedDefault

open Script

/-- A character that, standing in front of a name, makes it part of another name or of an access to
a member. -/
def joinsName (c : Char) : Bool := Text.isWord c || c = '$' || c = '.' || c = '?'

/-- The value of `name: …` at the start of a text: the inside of a string literal that is closed on
its line, or the text up to a comma, a line feed, a closing brace or a semicolon. -/
def valueHere? (name : Text) (before : Option Char) (t : Text) : Option Text := do
  guard (!before.any joinsName)
  let t ← Text.dropPrefix? name t
  let t ← Text.dropPrefix? ":" (Text.stripLeft t)
  match Text.stripLeft t with
  | [] => none
  | c :: t =>
    let inside := t.takeWhile fun d => d ≠ c && d ≠ '\n'
    -- a literal that is not closed on its line is read like any other expression
    if isQuote c && (t.drop inside.length).head? = some c then some inside
    else
      guard (!(c = ',' || c = '{' || c = '}' || c = ';'))
      let value := c :: t.takeWhile fun d => !(d = ',' || d = '\n' || d = '}' || d = ';')
      return Text.strip value

/-- The value of the first entry `name: …` of a text. -/
def assignedDefault? (scope name : Text) : Option Text :=
  (Text.search (valueHere? name) none scope).map Prod.snd

/-- The text from its opening parenthesis on of a call of `withDefaults` on `defineProps` at the
start of a text. -/
def withDefaultsCall? (before : Option Char) (t : Text) : Option Text := do
  guard (Text.boundary before t.head?)
  let t ← Text.dropPrefix? "withDefaults" t
  let call := Text.stripLeft t
  let t ← Text.dropPrefix? "(" call
  let t ← Text.dropPrefix? "defineProps" (Text.stripLeft t)
  guard (Text.boundary (some 's') t.head?)
  return call

/-- The text in which the defaults of an interface's properties are looked for: the second argument
of the first call of `withDefaults` on `defineProps`, and the whole script when there is none. -/
def defaultsScope (script : Text) : Text :=
  (do
    let (_, call) ← Text.search withDefaultsCall? none script
    let (arguments, _) ← balancedBlock? call
    -- the first argument is the declaration itself
    let segment ← (commaSegments arguments)[1]?
    return segment.text).getD script

end ComponentBook.AssignedDefault
