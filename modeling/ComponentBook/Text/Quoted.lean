import ComponentBook.Text.Blank
import ComponentBook.Text.Lower
import ComponentBook.Text.Printable

/-! # Quoted texts

Messages show a text in quotes. **`quoted`** uses single quotes, or double quotes for a text that
holds a single quote and no double quote; the quote in use and the backslash get a backslash, and
characters that are not printable are written by their numbers. -/

namespace ComponentBook.Text

/-- The lower hexadecimal digits of `n`, with zeros in front up to `width`. -/
def hexadecimal (width n : Nat) : Text :=
  let digits := Nat.toDigits 16 n
  List.replicate (width - digits.length) '0' ++ digits

/-- One character of a quoted text. -/
def quotedChar (quote c : Char) : Text :=
  if c = quote || c = '\\' then ['\\', c]
  else if c = '\n' then ['\\', 'n']
  else if c = '\r' then ['\\', 'r']
  else if c = '\t' then ['\\', 't']
  else if isPrintable c then [c]
  else if c.toNat < 0x100 then ['\\', 'x'] ++ hexadecimal 2 c.toNat
  else if c.toNat < 0x10000 then ['\\', 'u'] ++ hexadecimal 4 c.toNat
  else ['\\', 'U'] ++ hexadecimal 8 c.toNat

/-- A text in quotes. -/
def quoted (t : Text) : Text :=
  -- double quotes only where they spare a backslash
  let quote := if t.contains ['\''] && !t.contains ['"'] then '"' else '\''
  quote :: t.flatMap (quotedChar quote) ++ [quote]

end ComponentBook.Text
