import ComponentBook.Json.Token

/-! # Reading JSON

The tokens of a text are read one by one. The arrays and objects that are open at a token are kept
as a list of **`Frame`**s, the innermost first, so that reading is one pass over the tokens
(**`Json.read`**). **`Json.ofText`** reads a whole text. -/

namespace ComponentBook.Json

/-- An array or an object that is open. -/
inductive Frame where
  /-- An array with its items so far, the last one first. -/
  | array (items : List Value)
  /-- An object with its members so far, the last one first, at the value of a name. -/
  | object (members : List (Codes × Value)) (name : Codes)

/-- What can stand at a token. -/
inductive Place where
  /-- A value. -/
  | value
  /-- The first item of an array, or its end. -/
  | firstItem
  /-- The name of the first member of an object, or its end. -/
  | firstName
  /-- The name of a further member of an object. -/
  | name
  /-- The colon behind a name. -/
  | colon
  /-- What follows a value. -/
  | behind (v : Value)

/-- The most arrays and objects that can be open at once. -/
def nestingLimit : Nat := 950

/-- A frame opened in front of a place. -/
def opened (frames : List Frame) (frame : Frame) (place : Place) :
    Except Fault (List Frame × Place) :=
  if nestingLimit ≤ frames.length then .error .tooLarge else .ok (frame :: frames, place)

/-- The frames and the place after a token that begins a value. -/
def startValue (frames : List Frame) : Token → Except Fault (List Frame × Place)
  | .openArray => opened frames (.array []) .firstItem
  | .openObject => opened frames (.object [] []) .firstName
  | .leaf v => .ok (frames, .behind v)
  | .broken fault => .error fault
  | _ => .error .malformed

/-- The frames and the place after a token that names a member. -/
def nameMember (frames : List Frame) : Token → Except Fault (List Frame × Place)
  | .leaf (.string name) =>
    match frames with
    | .object members _ :: frames => .ok (.object members name :: frames, .colon)
    | _ => .error .malformed
  | .broken fault => .error fault
  | _ => .error .malformed

/-- The frames and the place after one more token. -/
def advance (frames : List Frame) (place : Place) (token : Token) :
    Except Fault (List Frame × Place) :=
  match place, token, frames with
  | .firstItem, .closeArray, .array _ :: frames => .ok (frames, .behind (.array []))
  | .firstName, .closeObject, .object _ _ :: frames => .ok (frames, .behind (.object []))
  | .value, token, frames | .firstItem, token, frames => startValue frames token
  | .name, token, frames | .firstName, token, frames => nameMember frames token
  | .colon, .colon, frames => .ok (frames, .value)
  | .behind v, .comma, .array items :: frames => .ok (.array (v :: items) :: frames, .value)
  | .behind v, .comma, .object members name :: frames =>
    .ok (.object ((name, v) :: members) [] :: frames, .name)
  | .behind v, .closeArray, .array items :: frames =>
    .ok (frames, .behind (.array (v :: items).reverse))
  | .behind v, .closeObject, .object members name :: frames =>
    -- a name that is given again keeps its place and takes the new value
    .ok (frames, .behind (.object (settle ((name, v) :: members).reverse)))
  | _, _, _ => .error .malformed

/-- The value that tokens write from a place on. -/
def read (frames : List Frame) (place : Place) : List Token → Except Fault Value
  | [] =>
    match frames, place with
    | [], .behind v => .ok v
    | _, _ => .error .malformed
  | token :: rest =>
    match advance frames place token with
    | .ok (frames, place) => read frames place rest
    | .error fault => .error fault

/-- The value of a text. -/
def ofText (t : Text) : Except Fault Value := read [] .value (tokens t)

end ComponentBook.Json
