import ComponentBook.Text.Basic

/-! # What a plain scalar is

A plain scalar is a number, a truth value, a date, nothing at all, or else a text; which of these it
is shows in the way it is written. **`plainTag`** tells, by a small regular expression for each
kind. -/

namespace ComponentBook.Yaml

/-- The kinds of nodes. -/
inductive Tag where
  | null
  | boolean
  | integer
  | decimal
  | text
  | moment
  | binary
  | sequence
  | mapping
  | set
  /-- A list of pairs, whose names may have to differ. -/
  | pairs
  /-- The key that stands for the entries of another mapping. -/
  | merge
  /-- The key for the value of a mapping that is used as a scalar. -/
  | value
  | other (name : Text)
  deriving DecidableEq, Repr

/-- The start of the full names of tags. -/
def tagStart : Text := "tag:yaml.org,2002:".toList

/-- The words for the kinds of nodes. -/
def tagWords : List (Text × Tag) := [
  ("null".toList, .null), ("bool".toList, .boolean), ("int".toList, .integer),
  ("float".toList, .decimal), ("str".toList, .text), ("timestamp".toList, .moment),
  ("binary".toList, .binary), ("seq".toList, .sequence), ("map".toList, .mapping),
  ("set".toList, .set), ("pairs".toList, .pairs), ("omap".toList, .pairs),
  ("merge".toList, .merge), ("value".toList, .value)]

/-- The kind of node that a full name stands for. -/
def Tag.ofName (name : Text) : Tag :=
  (do tagWords.lookup (← Text.dropPrefix? tagStart name)).getD (.other name)

/-! ## Patterns -/

/-- A digit below a base up to ten, or an underscore. -/
def isDigitOrBar (base : Nat) (c : Char) : Bool :=
  c = '_' || c.isDigit && c.toNat - '0'.toNat < base

/-- A text without the sign in front of it. -/
def dropSign : Text → Text
  | '-' :: t => t
  | '+' :: t => t
  | t => t

/-- A digit, and then digits and underscores. -/
def isNumeral : Text → Bool
  | c :: t => c.isDigit && t.all (isDigitOrBar 10)
  | [] => false

/-- A colon and a number below sixty, at least once, up to the end of the text or, when a point may
follow, up to a point with digits and underscores behind it. -/
def isSixties (pointed : Bool) : (steps : Nat) → Text → Bool
  | 0, _ => false
  | steps + 1, t =>
    match t with
    | ':' :: a :: b :: t =>
      if a.isDigit ∧ a.toNat ≤ '5'.toNat ∧ b.isDigit then ends pointed steps t
      else a.isDigit && ends pointed steps (b :: t)
    | [':', a] => a.isDigit && !pointed
    | _ => false
where
  ends (pointed : Bool) (steps : Nat) : Text → Bool
    | [] => !pointed
    | '.' :: t => pointed && t.all (isDigitOrBar 10)
    | t => isSixties pointed steps t

/-- The digits and underscores at the start of a text that starts with a digit, and the rest. -/
def splitNumeral (t : Text) : Option (Text × Text) :=
  if t.head?.any Char.isDigit then
    some (t.takeWhile (isDigitOrBar 10), t.dropWhile (isDigitOrBar 10))
  else none

/-- A whole number: in base two, eight, ten, sixteen or sixty. -/
def isInteger (t : Text) : Bool :=
  match dropSign t with
  | '0' :: 'b' :: t => !t.isEmpty && t.all (isDigitOrBar 2)
  | '0' :: 'x' :: t =>
    !t.isEmpty && t.all fun c =>
      isDigitOrBar 10 c || ('a' ≤ c && c ≤ 'f') || ('A' ≤ c && c ≤ 'F')
  | '0' :: t => t.all (isDigitOrBar 8)
  | t =>
    isNumeral t || match splitNumeral t with
      | some (_, rest) => isSixties false t.length rest
      | none => false

/-- A power of ten, with its sign, or nothing. -/
def isPower : Text → Bool
  | [] => true
  | e :: s :: d :: t =>
    (e = 'e' || e = 'E') && (s = '-' || s = '+') && d.isDigit && t.all Char.isDigit
  | _ => false

/-- A number with a point: in base ten or sixty, infinite, or undefined. -/
def isDecimal (t : Text) : Bool :=
  let unsigned := dropSign t
  let words (ws : List String) (t : Text) : Bool := ws.any (·.toList = t)
  (match splitNumeral unsigned with
    | some (_, '.' :: rest) => isPower (rest.dropWhile (isDigitOrBar 10))
    | some (_, rest) => isSixties true t.length rest
    | none => words [".inf", ".Inf", ".INF"] unsigned) ||
  (match t with
    | '.' :: d :: rest => d.isDigit && isPower (rest.dropWhile (isDigitOrBar 10))
    | _ => false) ||
  words [".nan", ".NaN", ".NAN"] t

/-- A word for true or false. -/
def isBoolean (t : Text) : Bool :=
  ["yes", "Yes", "YES", "no", "No", "NO", "true", "True", "TRUE", "false", "False", "FALSE", "on",
    "On", "ON", "off", "Off", "OFF"].any (·.toList = t)

/-- A word for nothing. -/
def isNull (t : Text) : Bool := ["", "~", "null", "Null", "NULL"].any (·.toList = t)

/-- The digits at the start of a text, between so many and so many, and the rest. -/
def someDigits (least most : Nat) (t : Text) : Option (Nat × Text) :=
  let ds := (t.takeWhile Char.isDigit).take most
  if ds.length < least then none
  else some (ds.foldl (fun n d => n * 10 + (d.toNat - '0'.toNat)) 0, t.drop ds.length)

/-- The text behind a character. -/
def behind (c : Char) (t : Text) : Option Text := Text.dropPrefix? [c] t

/-- A date and, when it is given, the hour, the minute and the second, and the difference to universal
time in minutes. -/
structure Moment where
  year : Nat
  month : Nat
  day : Nat
  time : Option (Nat × Nat × Nat) := none
  offset : Int := 0
  deriving DecidableEq, Repr

/-- A date in digits, of so many digits for month and day at least, and the rest. -/
def date? (least : Nat) (t : Text) : Option (Moment × Text) := do
  let (year, t) ← someDigits 4 4 t
  let (month, t) ← someDigits least 2 (← behind '-' t)
  let (day, t) ← someDigits least 2 (← behind '-' t)
  return ({ year, month, day }, t)

/-- The difference to universal time at the end of a moment, in minutes: nothing, or a letter, or a
sign and hours and perhaps minutes. -/
def offset? (t : Text) : Option Int :=
  match t.dropWhile Text.isSpaceOrTab with
  | [] => if t.isEmpty then some 0 else none
  | ['Z'] => some 0
  | s :: t => do
    if s ≠ '-' ∧ s ≠ '+' then failure
    let (hours, t) ← someDigits 1 2 t
    let (minutes, t) ← if t.isEmpty then some (0, t) else someDigits 2 2 (← behind ':' t)
    if !t.isEmpty then failure
    let size : Int := hours * 60 + minutes
    return if s = '-' then -size else size

/-- The moment that a text writes; when only a date is given, the month and the day have so many
digits at least. -/
def moment? (least : Nat) (t : Text) : Option Moment :=
  let whole := do
    let (m, t) ← date? least t
    if t.isEmpty then return m else failure
  whole <|> do
    let (m, t) ← date? 1 t
    let rest := t.dropWhile Text.isSpaceOrTab
    let t ← if rest.length < t.length then some rest else behind 't' t <|> behind 'T' t
    let (hour, t) ← someDigits 1 2 t
    let (minute, t) ← someDigits 2 2 (← behind ':' t)
    let (second, t) ← someDigits 2 2 (← behind ':' t)
    let t := match t with
      | '.' :: t => t.dropWhile Char.isDigit
      | t => t
    return { m with time := some (hour, minute, second), offset := ← offset? t }

/-- A sign that starts something else than a scalar. -/
def isIndicator (t : Text) : Bool := [['!'], ['&'], ['*']].contains t

/-- The kind of node that a plain scalar without a line feed is. -/
def wordTag (t : Text) : Tag :=
  if isBoolean t then .boolean
  else if isDecimal t then .decimal
  else if isInteger t then .integer
  else if t = "<<".toList then .merge
  else if isNull t then .null
  else if (moment? 2 t).isSome then .moment
  else if t = ['='] then .value
  else if isIndicator t then .other (tagStart ++ "yaml".toList)
  else .text

/-- A text without a line feed behind its other characters. -/
def dropFinalBreak (t : Text) : Text :=
  if 1 < t.length ∧ t.getLast? = some '\n' then t.dropLast else t

/-- The kind of node that a plain scalar is. A line feed behind it makes no difference. -/
def plainTag (t : Text) : Tag := wordTag (dropFinalBreak t)

end ComponentBook.Yaml
