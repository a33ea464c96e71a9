import ComponentBook.Number.Double
import ComponentBook.Text.Basic

/-! # JSON values

A text in a JSON document is a list of code points, and not of characters: it can hold halves of
surrogate pairs by themselves, which are no characters. **`Codes.ofText`** gives the code points of a
text, **`Codes.text?`** the text of code points without such halves, and **`Codes.joined`** puts the
halves of each pair together.

A **`Json.Value`** is what a JSON text stands for. The members of an object are kept in the order in
which they are written, each name once: of several members of one name the last one counts
(**`Json.settle`**). **`Json.Value.get?`** looks a member up. -/

namespace ComponentBook.Json

/-- Code points. -/
abbrev Codes := List Nat

namespace Codes

/-- The first half of a pair. -/
def isFirstHalf (n : Nat) : Bool := 0xD800 ≤ n && n < 0xDC00

/-- The second half of a pair. -/
def isSecondHalf (n : Nat) : Bool := 0xDC00 ≤ n && n < 0xE000

/-- A half of a pair. -/
def isHalf (n : Nat) : Bool := isFirstHalf n || isSecondHalf n

/-- The code points of a text. -/
def ofText (t : Text) : Codes := t.map Char.toNat

/-- The text of code points, if there are no halves among them. -/
def text? (codes : Codes) : Option Text :=
  if codes.any isHalf then none else some (codes.map Char.ofNat)

/-- Halves next to each other that make a pair put together; other halves stay by themselves. -/
def joined : List Nat → Codes
  | m :: n :: rest =>
    if isFirstHalf m && isSecondHalf n then
      (0x10000 + (m - 0xD800) * 0x400 + (n - 0xDC00)) :: joined rest
    else m :: joined (n :: rest)
  | codes => codes

end Codes

/-- A JSON value. Whole numbers are told apart from other numbers. -/
inductive Value where
  | null
  | boolean (b : Bool)
  | integer (n : Int)
  | decimal (x : Double)
  | string (codes : Codes)
  | array (items : List Value)
  | object (members : List (Codes × Value))
  deriving Inhabited

/-- One more member: in the place of the member of its name, if there is one. -/
def putMember (name : Codes) (v : Value) : List (Codes × Value) → List (Codes × Value)
  | [] => [(name, v)]
  | m :: ms => if m.1 = name then (name, v) :: ms else m :: putMember name v ms

/-- Members as they count, each name once. -/
def settle (members : List (Codes × Value)) : List (Codes × Value) :=
  members.foldl (fun out m => putMember m.1 m.2 out) []

namespace Value

/-- A text as a value. -/
def text (t : Text) : Value := .string (.ofText t)

/-- An object whose names are texts. -/
def ofMembers (members : List (Text × Value)) : Value :=
  .object (members.map fun (name, v) => (.ofText name, v))

/-- The member of a value with a name. -/
def get? (name : Text) : Value → Option Value
  | .object members => members.lookup (.ofText name)
  | _ => none

/-- A text as a value, null when there is none. -/
def ofText? : Option Text → Value
  | some t => .text t
  | none => .null

/-- The value with those members of its objects, at any depth, whose names have a property. -/
def keepMembers (p : Codes → Bool) : Value → Value
  | .array items => .array (items.attach.map fun ⟨v, _⟩ => v.keepMembers p)
  | .object members =>
    .object ((members.attach.filter fun ⟨m, _⟩ => p m.1).map fun ⟨m, _⟩ => (m.1, m.2.keepMembers p))
  | v => v
decreasing_by
  · have := List.sizeOf_lt_of_mem ‹_ ∈ items›
    simp only [Value.array.sizeOf_spec]
    omega
  · have inList := List.sizeOf_lt_of_mem ‹_ ∈ members›
    have inPair : sizeOf m.2 < sizeOf m := by
      cases m
      simp only [Prod.mk.sizeOf_spec]
      omega
    simp only [Value.object.sizeOf_spec]
    omega

end Value

end ComponentBook.Json
