import ComponentBook.Locale
import ComponentBook.Property.Basic

/-! # Usage examples

A component whose author gives no example is shown with one that is built from its properties.
**`exampleValue`** is the value that a property gets, by the first rule that its type and its name
meet; **`usageExample`** is the tag with these values. -/

namespace ComponentBook

/-- The colour that stands for any colour. -/
def accentColor : Text := "#42b883"

/-- The number of attributes that a tag shows on one line. -/
def maxInlineAttributes : Nat := 3

/-- A text in double quotes. -/
def doubleQuoted (t : Text) : Text := '"' :: t ++ ['"']

/-- What the type of a property asks its example value to be. -/
inductive ValueKind where
  /-- A string. -/
  | string
  /-- A number. -/
  | number
  /-- A boolean. -/
  | boolean
  /-- An array. -/
  | array
  /-- An object. -/
  | object
  /-- Any other value. -/
  | other
  deriving DecidableEq, Repr

/-- The kind of value that a type names first, in the order of the kinds; letters may be of either
case. -/
def ValueKind.ofType (type : Text) : ValueKind :=
  let small := type.lower
  if small.contains "string" then .string
  else if small.contains "number" then .number
  else if small.contains "boolean" then .boolean
  else if small.contains "array" || type.contains "[]" then .array
  else if small.contains "object" then .object
  else .other

/-- The example value of a string property with the given name. -/
def stringValue (locale : Locale) (name : Text) : Text :=
  if name.contains "color" then accentColor
  else if name.contains "name" || name.contains "title" then locale.namedValue.fill name
  else if name.contains "msg" || name.contains "message" then locale.messageValue
  else locale.stringValue.fill name

/-- The example value of a number property with the given name. -/
def numberValue (name : Text) : Text :=
  if name.contains "size" then "24"
  else if name.contains "max" then "100"
  else if name.contains "min" then "0"
  else "42"

/-- The literal that stands for the value of a property in an example. -/
def exampleValue (locale : Locale) (p : Property) : Text :=
  match ValueKind.ofType p.type with
  | .string => doubleQuoted (stringValue locale p.name)
  | .number => numberValue p.name
  | .boolean => "true"
  | .array => "[]"
  | .object => "\x7b\x7d"
  | .other => doubleQuoted (locale.otherValue.fill p.name)

/-- A property that an example may leave out: it need not be given and has a default that is not
empty. -/
def Property.omissible (p : Property) : Bool :=
  !p.required && p.default.any fun d => !d.isEmpty

/-- The attributes of an example: a value for every property that may not be left out. -/
def exampleAttributes (locale : Locale) (ps : List Property) : List Text :=
  (ps.filter fun p => !p.omissible).map fun p => p.name ++ '=' :: exampleValue locale p

/-- The tag of an example, without its end: few attributes stand on its line, more on one line
each. -/
def openUsage (name : Text) (attributes : List Text) : Text :=
  '<' :: name ++
    (if attributes.length ≤ maxInlineAttributes then attributes.flatMap fun a => ' ' :: a
    else attributes.flatMap (fun a => "\n  ".toList ++ a) ++ ['\n'])

/-- A tag that shows a component with its properties. A component that takes content is shown
around the locale's content, any other by a tag that closes itself. -/
def usageExample (locale : Locale) (name : Text) (ps : List Property) (hasSlot : Bool) : Text :=
  let attributes := exampleAttributes locale ps
  let tag := openUsage name attributes
  if hasSlot then tag ++ ">\n  ".toList ++ locale.slotContent ++ "\n</".toList ++ name ++ ['>']
  else if attributes.length ≤ maxInlineAttributes then tag ++ " />".toList
  else tag ++ "/>".toList

end ComponentBook
