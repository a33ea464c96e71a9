import ComponentBook.Script.Bracket
import ComponentBook.Script.DocComment

/-! # Places in a script

A place of a text is a number of characters: from the start of the text, or from its end when it is
negative. **`blockAt`** reads the bracket at a place. Reading that starts at a place counted from the
end goes on at the start of the text once the end is reached, except within a comment. -/

namespace ComponentBook.Script

/-- The part of a text in front of a place. -/
def textBefore (t : Text) (place : Int) : Text :=
  t.take (if place < 0 then t.length - place.natAbs else place.toNat)

/-- The body of the documentation comment that ends in front of a place. -/
def commentBefore? (t : Text) (place : Int) : Option Text :=
  DocComment.commentBefore? (textBefore t place)

/-- A lexeme that starts a text from a place on, and where reading goes on. What is read is the text
from there to its end, and then the text once more. -/
structure PlacedLexeme where
  lexeme : Lexeme
  /-- The place of the lexeme. -/
  place : Int
  rest : Text

/-- The place at which a text is read that is left to read. -/
def placeOf (t rest : Text) : Int := (t.length : Int) - rest.length

/-- What follows a comment that starts `end_`, the end of the text `t`. A comment whose opening ends
the text is closed by the first closing of the whole text. -/
def behindComment? (t end_ : Text) : Option Text :=
  match end_ with
  | ['/', '*'] => some (((Text.cut? "*/" t).map (·.2)).getD [])
  | _ => (comment? end_).map (·.2)

/-- The lexeme at the start of what is left to read, when it is not empty. -/
def placedLexeme? (t : Text) : Text → Option PlacedLexeme
  | [] => none
  | c :: rest =>
    let place := placeOf t (c :: rest)
    if isQuote c then some ⟨.literal [c], place, (literalTail c rest).2⟩ else
    -- what is left goes over the end of the text and starts anew there, but a comment does not
    let end_ := if place < 0 then (c :: rest).take place.natAbs else c :: rest
    match if place < 0 then behindComment? t end_ else (comment? end_).map (·.2) with
    | some behind => some ⟨.comment [], place, behind⟩
    | none => some ⟨.mark c, place, rest⟩

/-- The place of the closing character of the outermost open bracket, in what is left to read. -/
def closingPlace? (t : Text) (inner : Bracket) (around : List Bracket) :
    (steps : Nat) → Text → Option Int
  | 0, _ => none
  | steps + 1, left =>
    match placedLexeme? t left with
    | none => none
    | some ⟨.mark c, place, rest⟩ =>
      match Bracket.ofOpening? c, Bracket.ofClosing? c with
      | some b, _ => closingPlace? t b (inner :: around) steps rest
      | none, none => closingPlace? t inner around steps rest
      | none, some b =>
        if b ≠ inner then none else
        match around with
        | [] => some place
        | inner' :: around' => closingPlace? t inner' around' steps rest
    | some ⟨_, _, rest⟩ => closingPlace? t inner around steps rest

/-- The part of a text between two places. -/
def textBetween (t : Text) (start stop : Int) : Text :=
  let fromStart (place : Int) : Nat :=
    if place < 0 then t.length - place.natAbs else place.toNat
  (t.take (fromStart stop)).drop (fromStart start)

/-- The text inside the bracket at a place counted from the end, and the place behind it. -/
def blockFromEnd? (t : Text) (place : Int) : Option (Text × Int) :=
  match t.drop (t.length - place.natAbs) with
  | [] => none
  | c :: rest =>
    match Bracket.ofOpening? c with
    | none => none
    | some b =>
      -- no more is left to read than the text twice over, so the steps suffice
      (closingPlace? t b [] (2 * t.length + 1) (rest ++ t)).map fun closing =>
        (textBetween t (place + 1) closing, closing + 1)

/-- The text inside the bracket at a place, and the place behind it. -/
def blockAt? (t : Text) (place : Int) : Option (Text × Int) :=
  if place < 0 then blockFromEnd? t place
  else (balancedBlock? (t.drop place.toNat)).map fun (body, _) => (body, place + body.length + 2)

/-- A text has a place that is asked for: one counted from the end lies in the text. -/
def hasPlace (t : Text) (place : Int) : Bool := -(t.length : Int) ≤ place

/-- What is said of a place that a text does not have. -/
def noPlaceMessage : Text := "string index out of range".toList

end ComponentBook.Script
