import ComponentBook.Number.Double
import ComponentBook.Text.Blank
import ComponentBook.Text.Digit

/-! # Reading numbers

Numbers are read from texts that people write: with blanks around them, with a sign, with single
underscores between digits, and with the decimal digits of any script. **`readInteger?`** reads a
whole number in a base, **`readDouble?`** a decimal. -/

namespace ComponentBook.Number

/-- A blank around a number; the four separators of ASCII do not count. -/
def isMargin (c : Char) : Bool := Text.isBlank c && !('\x1c' ≤ c && c ≤ '\x1f')

/-- A text without the blanks around a number. -/
def trim (t : Text) : Text := Text.dropRightWhile isMargin (t.dropWhile isMargin)

/-- A sign in front of a number, and the rest. -/
def sign : Text → Bool × Text
  | '-' :: t => (true, t)
  | '+' :: t => (false, t)
  | t => (false, t)

/-- The value of a digit in a base; letters are digits from ten on. -/
def digit? (base : Nat) (c : Char) : Option Nat :=
  let value :=
    if 'a' ≤ c ∧ c ≤ 'z' then some (c.toNat - 'a'.toNat + 10)
    else if 'A' ≤ c ∧ c ≤ 'Z' then some (c.toNat - 'A'.toNat + 10)
    else Text.digitValue? c
  value.filter (· < base)

/-- The text starts with a digit. -/
def startsWithDigit (base : Nat) (t : Text) : Bool := (t.head?.bind (digit? base)).isSome

/-- The digits at the start of a text, single underscores between them left out, and the rest. -/
def digits (base : Nat) : Text → List Nat × Text
  | [] => ([], [])
  | c :: '_' :: t =>
    match digit? base c with
    | none => ([], c :: '_' :: t)
    | some d =>
      if startsWithDigit base t then
        let (ds, rest) := digits base t
        (d :: ds, rest)
      -- an underscore in front of anything but a digit is not a part of the number
      else ([d], '_' :: t)
  | c :: t =>
    match digit? base c with
    | none => ([], c :: t)
    | some d =>
      let (ds, rest) := digits base t
      (d :: ds, rest)

/-- The value of digits in a base. -/
def value (base : Nat) (ds : List Nat) : Nat := ds.foldl (fun n d => n * base + d) 0

/-- A text without the mark of its base, if it starts with one; an underscore may follow the mark. -/
def dropBaseMark (base : Nat) (t : Text) : Text :=
  let marks := if base = 16 then ['x', 'X'] else if base = 8 then ['o', 'O'] else
    if base = 2 then ['b', 'B'] else []
  match t with
  | '0' :: c :: rest =>
    if marks.contains c then
      match rest with
      | '_' :: rest => rest
      | rest => rest
    else t
  | t => t

/-- The digits of the whole number that a text writes in a base, and its sign. -/
def integerDigits? (base : Nat) (t : Text) : Option (Bool × List Nat) :=
  let (negative, t) := sign (trim t)
  match digits base (dropBaseMark base t) with
  | (d :: ds, []) => some (negative, d :: ds)
  | _ => none

/-- The most decimal digits of a whole number that is converted from or to a text. -/
def digitLimit : Nat := 4300

/-- The whole number that a text writes in a base. -/
def readInteger? (base : Nat) (t : Text) : Option Int :=
  (integerDigits? base t).map fun (negative, ds) =>
    let n : Int := value base ds
    if negative then -n else n

/-- The whole number that a text writes with not too many decimal digits. -/
def readDecimal? (t : Text) : Option Int :=
  match integerDigits? 10 t with
  | some (_, ds) => if digitLimit < ds.length then none else readInteger? 10 t
  | none => none

/-- The power of ten behind the digits of a decimal; none when the text holds anything else. -/
def readPower? : Text → Option Int
  | [] => some 0
  | c :: t =>
    if c = 'e' ∨ c = 'E' then
      let (negative, t) := sign t
      match digits 10 t with
      | (d :: ds, []) =>
        let n : Int := value 10 (d :: ds)
        some (if negative then -n else n)
      | _ => none
    else none

/-- The decimal without sign that a text writes. -/
def readUnsigned? (negative : Bool) (t : Text) : Option Double :=
  let (whole, rest) := digits 10 t
  let (places, rest) := match rest with
    | '.' :: rest => digits 10 rest
    | rest => ([], rest)
  if whole = [] ∧ places = [] then none
  else (readPower? rest).map fun power =>
    .ofDecimal negative (value 10 (whole ++ places)) (power - places.length)

/-- The decimal, infinity or undefined number that a text writes. -/
def readDouble? (t : Text) : Option Double :=
  let (negative, t) := sign (trim t)
  let word := t.map Char.toLower
  if word = "inf".toList ∨ word = "infinity".toList then some (.infinite negative)
  else if word = "nan".toList then some .undefined
  else readUnsigned? negative t

end ComponentBook.Number
