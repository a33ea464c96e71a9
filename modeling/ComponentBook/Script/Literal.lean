import ComponentBook.Script.Lexeme
import ComponentBook.Text.Blank

/-! # String literals as values

**`unquote`** reads the value of an expression that is written between two equal quotes. -/

namespace ComponentBook.Script

/-- A text without the blank characters at its ends and, if it then starts and ends with the same
quote, without the two quotes. -/
def unquote (value : Text) : Text :=
  match value.strip with
  | [] => []
  | [c] => [c]
  | c :: t => if isQuote c && t.getLast? = some c then t.dropLast else c :: t

end ComponentBook.Script
