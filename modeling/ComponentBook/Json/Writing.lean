import ComponentBook.Json.Value
import ComponentBook.Number.Shortest
import ComponentBook.Text.Quoted

/-! # Writing JSON

**`Json.Value.render`** writes a value without blanks between its parts. Numbers that are infinite or
undefined cannot be written. What is written can hold halves of surrogate pairs by themselves, and
then has no bytes (**`Json.Value.fault?`**). -/

namespace ComponentBook.Json

/-- The characters with a letter of their own behind a backslash. -/
def escapeLetters : List (Char × Char) := [
  ('"', '"'), ('\\', '\\'), ('\n', 'n'), ('\r', 'r'), ('\t', 't'), ('\x08', 'b'), ('\x0c', 'f')]

/-- How a code point is written in a text. -/
def renderCode (n : Nat) : Codes :=
  match escapeLetters.lookup (Char.ofNat n) with
  | some letter => .ofText ['\\', letter]
  | none => if n < 32 then .ofText ('\\' :: 'u' :: Text.hexadecimal 4 n) else [n]

/-- How a text is written. -/
def renderText (codes : Codes) : Codes :=
  let quote := Codes.ofText ['"']
  quote ++ codes.flatMap renderCode ++ quote

/-- How a number is written that is not a whole one. -/
def renderDecimal? : Double → Option Codes
  | .undefined | .infinite _ => none
  | x => some (.ofText x.text)

/-- Parts between brackets, with commas between them. -/
def bracketed (opening closing : Char) (parts : List Codes) : Codes :=
  [opening.toNat] ++ (parts.intersperse [','.toNat]).flatten ++ [closing.toNat]

namespace Value

/-- How a value is written, if all of its numbers can be. -/
def render? : Value → Option Codes
  | .null => some (.ofText "null".toList)
  | .boolean true => some (.ofText "true".toList)
  | .boolean false => some (.ofText "false".toList)
  | .integer n => some (.ofText (Text.signedDecimal n))
  | .decimal x => renderDecimal? x
  | .string codes => some (renderText codes)
  | .array items =>
    let parts := items.attach.mapM (m := Option) fun ⟨v, _⟩ => v.render?
    parts.map (bracketed '[' ']')
  | .object members =>
    let parts := members.attach.mapM (m := Option) fun ⟨m, _⟩ =>
      m.2.render?.map fun v => renderText m.1 ++ ':'.toNat :: v
    parts.map (bracketed '\x7b' '\x7d')
decreasing_by
  · have := List.sizeOf_lt_of_mem ‹_ ∈ items›
    simp only [Value.array.sizeOf_spec]
    omega
  · have inList := List.sizeOf_lt_of_mem ‹_ ∈ members›
    have inPair : sizeOf m.2 < sizeOf m := by
      cases m
      simp only [Prod.mk.sizeOf_spec]
      omega
    simp only [Value.object.sizeOf_spec]
    omega

end Value

/-- Why a value cannot be written. -/
inductive WriteFault where
  /-- A number is infinite or undefined. -/
  | notFinite
  /-- Halves of pairs stand by themselves: the first of them, the number of code points in front of
  it, and how many there are. -/
  | halves (first position count : Nat)
  deriving DecidableEq, Repr

/-- The text of a fault. -/
def WriteFault.message : WriteFault → Text
  | .notFinite => "Out of range float values are not JSON compliant".toList
  | .halves first position count =>
    let place : Text :=
      if count ≤ 1 then "character '\\u".toList ++ Text.hexadecimal 4 first ++
        "' in position ".toList ++ Text.decimal position
      else "characters in position ".toList ++ Text.decimal position ++ '-' ::
        Text.decimal (position + count - 1)
    "'utf-8' codec can't encode ".toList ++ place ++ ": surrogates not allowed".toList

/-- The first halves among code points. -/
def halvesIn? (codes : Codes) : Option WriteFault :=
  let front := codes.takeWhile (!Codes.isHalf ·)
  match codes.drop front.length with
  | [] => none
  | first :: rest => some (.halves first front.length ((rest.takeWhile Codes.isHalf).length + 1))

/-- Why a value cannot be written, if it cannot. -/
def Value.fault? (v : Value) : Option WriteFault :=
  match v.render? with
  | none => some .notFinite
  | some codes => halvesIn? codes

end ComponentBook.Json
