import ComponentBook.Template.Escape

/-! # The language of index templates

An index is written by a template: a text with places for values, loops and branches.
**`Value`** is what expressions stand for, **`Expr`** are the expressions of the language and
**`Node`** the parts of a template. **`Error`** tells why a template cannot be read or written.

This is the part of a larger language that index templates need. It has no filters, tests, calls,
comparisons, arithmetic or brackets of any kind, a loop names its items by one name, and the only
statements are loops and branches: a template with anything else, such as an assignment or a place
for another template, is refused as one that cannot be read. -/

namespace ComponentBook.Template

/-- Why a value does not exist. -/
inductive Absence where
  /-- Nothing has the name. -/
  | name (name : Text)
  /-- A value of some kind has no part with the name. -/
  | part (owner name : Text)
  /-- A value of some kind has nothing at the place. -/
  | element (owner : Text) (place : Nat)
  /-- A reason in words. -/
  | because (reason : Text)
  deriving DecidableEq, Repr

/-- The text of a reason. -/
def Absence.message : Absence → Text
  | .name n => n.quoted ++ " is undefined".toList
  | .part owner n => owner.quoted ++ " has no attribute ".toList ++ n.quoted
  | .element owner place => owner ++ " has no element ".toList ++ Text.decimal place
  | .because reason => reason

/-- What an expression stands for. -/
inductive Value where
  /-- A value that does not exist. -/
  | missing (absence : Absence)
  /-- The value that stands for no value. -/
  | null
  /-- A text. -/
  | text (t : Text)
  /-- A number. -/
  | number (n : Nat)
  /-- A truth value. -/
  | flag (b : Bool)
  /-- A list; a fixed list is shown in parentheses, any other in brackets. -/
  | list (fixed : Bool) (items : List Value)
  /-- A value with named parts, which is shown with them. -/
  | record (kind : Text) (fields : List (Text × Value))
  /-- A value with named parts that is shown by a text of its own. -/
  | object (kind shown : Text) (parts : List (Text × Value))
  /-- Something that could be done with another value. -/
  | operation (kind name : Text)
  deriving Repr

/-- An expression. -/
inductive Expr where
  /-- A value that is written down. -/
  | constant (v : Value)
  /-- A name. -/
  | name (name : Text)
  /-- A part of a value, by its name. -/
  | part (owner : Expr) (field : Text)
  /-- A part of a value, by its place. -/
  | element (owner : Expr) (place : Nat)
  /-- Two values written one after the other. -/
  | joined (first second : Expr)
  /-- Whether a value counts as false. -/
  | negated (value : Expr)
  /-- The first of two values if it counts as false, else the second. -/
  | both (first second : Expr)
  /-- The first of two values if it counts as true, else the second. -/
  | either (first second : Expr)
  /-- One of two values; the second is missing when it is not given. -/
  | choice (value condition : Expr) (otherwise : Option Expr)
  deriving Repr

/-- A part of a template. -/
inductive Node where
  /-- A text that is written as it stands. -/
  | data (t : Text)
  /-- The value of an expression. -/
  | output (value : Expr)
  /-- A part that is written for each item of a list that a condition lets through, and a part for
  the empty list. -/
  | loop (item : Text) (range : Expr) (filter : Option Expr) (body otherwise : List Node)
  /-- One of two parts. -/
  | branch (condition : Expr) (yes no : List Node)
  deriving Repr

/-- Why a template cannot be read. -/
inductive SyntaxFault where
  /-- A comment has no end. -/
  | openComment
  /-- A character that no word of a tag starts with, and its place in the template. -/
  | strangeCharacter (c : Char) (place : Nat)
  /-- A closing bracket that no bracket opens. -/
  | strayBracket (c : Char)
  /-- A closing bracket that does not fit to the last open one. -/
  | otherBracket (c wanted : Char)
  /-- A word that cannot be a name. -/
  | badName
  /-- A text in quotes that cannot be read. -/
  | badText (fault : EscapeFault)
  /-- Something stands where a value has to stand. -/
  | unexpected (found : Text)
  /-- A tag holds no expression. -/
  | noExpression (found : Text)
  /-- The part that a dot asks for is not named. -/
  | noField
  /-- Something else has to stand in a place. -/
  | expected (wanted found : Text)
  /-- The template ends where something has to stand. -/
  | expectedAtEnd (wanted : Text)
  /-- A loop names its items by a value instead of a name. -/
  | constantTarget
  /-- A loop names its items by the name that is kept for the loop. -/
  | loopTarget
  /-- A statement does not start with a word. -/
  | noStatement
  /-- A statement is not known, or not in this place; what could close the open parts, the innermost
  first, with the words that open them. -/
  | unknownStatement (name : Text) (opened : List (Text × List Text))
  /-- Some parts are not closed. -/
  | unclosed (opened : List (Text × List Text))
  deriving DecidableEq, Repr

/-- What a message says about the open parts of a template: what could close the innermost one, and
the word that opens it. A statement that closes one of the others may be misplaced. -/
def openedParts (statement : Option Text) : List (Text × List Text) → Text
  | [] => []
  | (word, closers) :: outer =>
    let sought := Text.join " or ".toList (closers.map Text.quoted)
    let misplaced := statement.any fun s =>
      ((word, closers) :: outer).any fun (_, closers) => closers.contains s
    (if misplaced then
      (" You probably made a nesting mistake. Jinja is expecting this tag, but currently looking " ++
        "for ").toList
    else " Jinja was looking for the following tags: ".toList) ++
      sought ++ ". The innermost block that needs to be closed is ".toList ++ word.quoted ++ ['.']

/-- The text of a fault. -/
def SyntaxFault.message : SyntaxFault → Text
  | .openComment => "Missing end of comment tag"
  | .strangeCharacter c place =>
    "unexpected char ".toList ++ Text.quoted [c] ++ " at ".toList ++ Text.decimal place
  | .strayBracket c => "unexpected '".toList ++ [c, '\'']
  | .otherBracket c wanted => "unexpected '".toList ++ c :: "', expected '".toList ++ [wanted, '\'']
  | .badName => "Invalid character in identifier"
  | .badText fault => fault.message
  | .unexpected found => "unexpected ".toList ++ found.quoted
  | .noExpression found => "Expected an expression, got ".toList ++ found.quoted
  | .noField => "expected name or number"
  | .expected wanted found =>
    "expected token ".toList ++ wanted.quoted ++ ", got ".toList ++ found.quoted
  | .expectedAtEnd wanted => "unexpected end of template, expected ".toList ++ wanted.quoted ++ ['.']
  | .constantTarget => "can't assign to 'const'"
  | .loopTarget => "Can't assign to special loop variable in for-loop target"
  | .noStatement => "tag name expected"
  | .unknownStatement name opened =>
    "Encountered unknown tag ".toList ++ name.quoted ++ '.' :: openedParts (some name) opened
  | .unclosed opened => "Unexpected end of template.".toList ++ openedParts none opened

/-- Why a template cannot be read or written. -/
inductive Error where
  /-- It does not follow the rules of the language. -/
  | unreadable (fault : SyntaxFault)
  /-- A part of something that does not exist is asked for. -/
  | missing (absence : Absence)
  /-- A loop runs over something that has no items. -/
  | notIterable (kind : Text)
  deriving DecidableEq, Repr

/-- The text of an error. -/
def Error.message : Error → Text
  | .unreadable fault => fault.message
  | .missing absence => absence.message
  | .notIterable kind => kind.quoted ++ " object is not iterable".toList

end ComponentBook.Template
