import ComponentBook.Script.Bracket
import ComponentBook.Text.Blank

/-! # Segments between separators

**`splitTopLevel`** cuts a text at the separators that stand outside brackets, string literals and
comments, and keeps the segments that are not blank, each with its place in the text. -/

namespace ComponentBook.Script

/-- A part of a text and the number of characters in front of it. -/
structure Segment where
  /-- The number of characters in front of the part. -/
  offset : Nat
  /-- The part. -/
  text : Text
  deriving DecidableEq, Repr

/-- The number of open brackets behind a lexeme. A closing bracket that closes nothing is left
aside. -/
def Lexeme.depthAfter (depth : Nat) : Lexeme → Nat
  | .mark c =>
    if (Bracket.ofOpening? c).isSome then depth + 1
    else if (Bracket.ofClosing? c).isSome then depth - 1
    else depth
  | _ => depth

/-- A lexeme that separates segments: a character with `isSeparator` outside all brackets. -/
def Lexeme.separates (isSeparator : Char → Bool) (depth : Nat) : Lexeme → Bool
  | .mark c =>
    depth = 0 && isSeparator c && (Bracket.ofOpening? c).isNone && (Bracket.ofClosing? c).isNone
  | _ => false

/-- The parts of a sequence of lexemes between its separators, blank parts included. -/
def partsTopLevel (isSeparator : Char → Bool) (depth : Nat) : List Lexeme → List Text
  | [] => [[]]
  | l :: ls =>
    if l.separates isSeparator depth then [] :: partsTopLevel isSeparator depth ls
    else match partsTopLevel isSeparator (l.depthAfter depth) ls with
      -- never met, as there is one part at least
      | [] => [l.text]
      | part :: parts => (l.text ++ part) :: parts

/-- Parts that stand one character apart, each with its place. -/
def placeParts (offset : Nat) : List Text → List Segment
  | [] => []
  | part :: parts => ⟨offset, part⟩ :: placeParts (offset + part.length + 1) parts

/-- The segments of a text between the characters with `isSeparator` that stand outside brackets,
string literals and comments; blank segments are left out. -/
def splitTopLevel (isSeparator : Char → Bool) (t : Text) : List Segment :=
  (placeParts 0 (partsTopLevel isSeparator 0 (lexemes t))).filter fun s => !s.text.allBlank

/-- The segments between commas. -/
def commaSegments (t : Text) : List Segment := splitTopLevel (· == ',') t

/-- The segments between semicolons. -/
def semicolonSegments (t : Text) : List Segment := splitTopLevel (· == ';') t

end ComponentBook.Script
