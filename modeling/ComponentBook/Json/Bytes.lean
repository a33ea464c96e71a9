import ComponentBook.Json.Reading
import ComponentBook.Text.Quoted
import ComponentBook.Text.Utf8

/-! # Bytes of a JSON document

The bytes of a JSON document are in UTF-8, or in UTF-16 or UTF-32 with either end of a number first.
Which of these it is shows in the places of zero bytes, since the first character of a document is
one of ASCII (**`Encoding.ofBytes`**). **`Json.ofBytes`** reads a document from bytes. -/

namespace ComponentBook.Json

/-- How the characters of a document are given by bytes. -/
inductive Encoding where
  /-- One to four bytes for a character. -/
  | bytes
  /-- Numbers of two bytes. -/
  | pairs (bigEndian : Bool)
  /-- Numbers of four bytes. -/
  | quadruples (bigEndian : Bool)
  deriving DecidableEq, Repr

/-- The encoding that the first bytes show. -/
def Encoding.ofBytes : List UInt8 → Encoding
  | a :: b :: c :: d :: _ =>
    if a = 0 then (if b = 0 then .quadruples true else .pairs true)
    else if b = 0 then (if c = 0 ∧ d = 0 then .quadruples false else .pairs false)
    else .bytes
  | [a, b] => if a = 0 then .pairs true else if b = 0 then .pairs false else .bytes
  | _ => .bytes

/-- The number that bytes give, the one with the most weight first or last. -/
def numberOf (bigEndian : Bool) (bytes : List UInt8) : Nat :=
  (if bigEndian then bytes else bytes.reverse).foldl (fun n b => n * 256 + b.toNat) 0

/-- The numbers of two bytes each. -/
def pairsOf (bigEndian : Bool) : List UInt8 → Option (List Nat)
  | [] => some []
  | a :: b :: rest => (pairsOf bigEndian rest).map (numberOf bigEndian [a, b] :: ·)
  | _ => none

/-- The numbers of four bytes each; they must be code points. -/
def quadruplesOf (bigEndian : Bool) : List UInt8 → Option (List Nat)
  | [] => some []
  | a :: b :: c :: d :: rest =>
    let n := numberOf bigEndian [a, b, c, d]
    if n < 0x110000 then (quadruplesOf bigEndian rest).map (n :: ·) else none
  | _ => none

/-- The text of a document with some code points. A half of a pair by itself is given by its escape,
which stands for it within a text; elsewhere neither can stand. -/
def textOf (codes : Codes) : Text :=
  codes.flatMap fun n =>
    if Codes.isHalf n then '\\' :: 'u' :: Text.hexadecimal 4 n else [Char.ofNat n]

/-- The mark of byte order. -/
def byteOrderMark : Char := '\uFEFF'

/-- The text that bytes give, if they give one. A mark of byte order in front is no part of a text in
UTF-8. -/
def decode (bytes : List UInt8) : Option Text :=
  match Encoding.ofBytes bytes with
  | .pairs bigEndian => (pairsOf bigEndian bytes).map fun units => textOf (Codes.joined units)
  | .quadruples bigEndian => (quadruplesOf bigEndian bytes).map textOf
  | .bytes =>
    match Text.ofUtf8 bytes with
    | .ok (c :: t) => some (if c = byteOrderMark then t else c :: t)
    | .ok [] => some []
    | .error _ => none

/-- The value that bytes write. -/
def ofBytes (bytes : List UInt8) : Except Fault Value :=
  match decode bytes with
  | some t => ofText t
  | none => .error .unreadable

end ComponentBook.Json
