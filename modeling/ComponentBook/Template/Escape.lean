import ComponentBook.Text.CharName
import ComponentBook.Text.Quoted

/-! # Escapes in quoted texts

A backslash in a quoted text of a template gives the character behind it a meaning of its own: a line
feed, a character given by its code or by its name, or nothing for the end of a line. A backslash
that means nothing stays. **`unescape`** resolves them. -/

namespace ComponentBook.Template

/-- Why an escape cannot be resolved. -/
inductive EscapeFault where
  /-- A code of two digits is cut short. -/
  | shortByte
  /-- A code of four digits is cut short. -/
  | shortCode
  /-- A code of eight digits is cut short. -/
  | shortLongCode
  /-- No character has the code. -/
  | noSuchCode
  /-- A name is not in braces, or is empty. -/
  | malformedName
  /-- No character has the name. -/
  | unknownName
  deriving DecidableEq, Repr

/-- The text of a fault. -/
def EscapeFault.message : EscapeFault → Text
  | .shortByte => "truncated \\xXX escape"
  | .shortCode => "truncated \\uXXXX escape"
  | .shortLongCode => "truncated \\UXXXXXXXX escape"
  | .noSuchCode => "illegal Unicode character"
  | .malformedName => "malformed \\N character escape"
  | .unknownName => "unknown Unicode character name"

/-- The character with a code; a code that stands for half a character gives the replacement
character. -/
def charOfCode (code : Nat) : Char :=
  if code.isValidChar then Char.ofNat code else '\uFFFD'

/-- The character whose code is written with `width` digits at the start of a text. -/
def codedChar (width : Nat) (short : EscapeFault) (t : Text) : Except EscapeFault (Text × Nat) :=
  let digits := t.take width
  match Text.hexValue? digits with
  | none => .error short
  | some code =>
    if digits.length < width then .error short
    else if 0x10FFFF < code then .error .noSuchCode
    else .ok ([charOfCode code], width)

/-- The character whose name stands in braces at the start of a text. -/
def namedChar : Text → Except EscapeFault (Text × Nat)
  | '{' :: t =>
    let name := t.takeWhile (· ≠ '}')
    if name.isEmpty || name.length = t.length then .error .malformedName
    else match Text.charNamed? name with
      | some c => .ok ([c], name.length + 2)
      | none => .error .unknownName
  | _ => .error .malformedName

/-- A digit of base eight. -/
def isOctal (c : Char) : Bool := '0' ≤ c && c ≤ '7'

/-- The character behind a backslash as it is written when the two mean nothing together: outside
ASCII by its code, of which only the backslash is lost. -/
def plainEscape (c : Char) : Text :=
  if c.toNat < 0x80 then ['\\', c]
  else if c.toNat < 0x100 then ['\\', 'x'] ++ Text.hexadecimal 2 c.toNat
  else if c.toNat < 0x10000 then ['\\', 'u'] ++ Text.hexadecimal 4 c.toNat
  else ['\\', 'U'] ++ Text.hexadecimal 8 c.toNat

/-- What a backslash with the character `c` and the text `t` behind it stands for, and how many
characters of `t` belong to it. -/
def escaped (c : Char) (t : Text) : Except EscapeFault (Text × Nat) :=
  match c with
  | '\n' => .ok ([], 0)
  | '\\' => .ok (['\\'], 0)
  | '\'' => .ok (['\''], 0)
  | '"' => .ok (['"'], 0)
  | 'a' => .ok (['\x07'], 0)
  | 'b' => .ok (['\x08'], 0)
  | 'f' => .ok (['\x0c'], 0)
  | 'n' => .ok (['\n'], 0)
  | 'r' => .ok (['\r'], 0)
  | 't' => .ok (['\t'], 0)
  | 'v' => .ok (['\x0b'], 0)
  | 'x' => codedChar 2 .shortByte t
  | 'u' => codedChar 4 .shortCode t
  | 'U' => codedChar 8 .shortLongCode t
  | 'N' => namedChar t
  | c =>
    if isOctal c then
      let digits := (t.take 2).takeWhile isOctal
      let code := (c :: digits).foldl (fun n d => n * 8 + (d.toNat - '0'.toNat)) 0
      .ok ([charOfCode code], digits.length)
    else .ok (plainEscape c, 0)

/-- A text with its escapes resolved. -/
def unescape : Text → Except EscapeFault Text
  | [] => .ok []
  | '\\' :: c :: t => do
    let (chars, length) ← escaped c t
    return chars ++ (← unescape (t.drop length))
  | c :: t => do return c :: (← unescape t)
termination_by t => t.length
decreasing_by
  · simp only [List.length_drop, List.length_cons]; omega
  · simp

end ComponentBook.Template
