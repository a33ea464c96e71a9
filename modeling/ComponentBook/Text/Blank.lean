import ComponentBook.Text.CharRange

/-! # Blank characters

Blank characters are the spaces and line breaks of all scripts and four ASCII separators.
**`strip`** takes them off both ends of a text, **`words`** are the parts between them, and
**`collapse`** writes a text with single spaces between its words. -/

namespace ComponentBook.Text

/-- The code points of blank characters. -/
def blankRanges : List (Nat × Nat) := [
  (0x9, 0xD), (0x1C, 0x20), (0x85, 0x85), (0xA0, 0xA0), (0x1680, 0x1680), (0x2000, 0x200A),
  (0x2028, 0x2029), (0x202F, 0x202F), (0x205F, 0x205F), (0x3000, 0x3000)]

/-- A space, a line break or a separator. -/
def isBlank (c : Char) : Bool := inRanges blankRanges c.toNat

/-- A text without the blank characters at its start. -/
def stripLeft (t : Text) : Text := t.dropWhile isBlank

/-- A text behind the blank characters at its start, of which there is at least one. -/
def dropBlanks? : Text → Option Text
  | [] => none
  | c :: t => if isBlank c then some (stripLeft t) else none

/-- A text without the blank characters at its end. -/
def stripRight (t : Text) : Text := t.dropRightWhile isBlank

/-- A text without the blank characters at its ends. -/
def strip (t : Text) : Text := (stripLeft t).stripRight

/-- A text of blank characters only, the empty text included. -/
def allBlank (t : Text) : Bool := t.all isBlank

/-- The parts of a text between blank characters, `word` being the part already read, last
character first. -/
def wordsAfter (word : Text) : Text → List Text
  | [] => if word.isEmpty then [] else [word.reverse]
  | c :: t =>
    if isBlank c then
      if word.isEmpty then wordsAfter [] t else word.reverse :: wordsAfter [] t
    else wordsAfter (c :: word) t

/-- The non-empty parts of a text between blank characters. -/
def words (t : Text) : List Text := wordsAfter [] t

/-- The words of a text with one space between them. -/
def collapse (t : Text) : Text := join [' '] t.words

end ComponentBook.Text
