import ComponentBook.Number.Reading
import ComponentBook.Text.Lower
import ComponentBook.Yaml.Cursor
import ComponentBook.Yaml.Plain

/-! # Values of scalars

Each scalar of a document makes a value of its kind: nothing, a truth value, a number, a text, a date
or bytes. **`Value.ofScalar`** makes it. -/

namespace ComponentBook.Yaml

/-- A value. A collection is given by the number of the node that it is made of. -/
inductive Value where
  | null
  | boolean (b : Bool)
  | integer (n : Int)
  | decimal (x : Double)
  | text (t : Text)
  | moment (m : Moment)
  /-- So many bytes. -/
  | bytes (count : Nat)
  | collection (node : Nat)
  deriving Repr

/-- A fault as the outcome of reading. -/
def faulty {α : Type} (f : Fault) : Reading α := .error (.fault f)

/-- The whole number that a text writes in a base. -/
def integerIn (base : Nat) (t : Text) : Reading Int :=
  match Number.integerDigits? base t with
  | none => faulty (.malformedInteger base t)
  | some (_, ds) =>
    -- in the other bases, all powers of two, any number of digits is converted
    if base = 10 ∧ Number.digitLimit < ds.length then
      faulty (.tooManyDigits Number.digitLimit ds.length)
    else .ok ((Number.readInteger? base t).getD 0)

/-- A text without underscores, and the sign in front of it. -/
def signed (t : Text) : Reading (Bool × Text) :=
  match t.filter (· ≠ '_') with
  | [] => faulty .emptyNumber
  | '-' :: t => .ok (true, t)
  | '+' :: t => .ok (false, t)
  | t => .ok (false, t)

/-- A whole number: in base two, eight, ten, sixteen or sixty. -/
def readInteger (t : Text) : Reading Int := do
  let (negative, t) ← signed t
  let n ←
    if t = ['0'] then pure 0
    else if t.startsWith "0b".toList then integerIn 2 (t.drop 2)
    else if t.startsWith "0x".toList then integerIn 16 (t.drop 2)
    else if t.isEmpty then faulty .emptyNumber
    else if t.startsWith ['0'] then integerIn 8 t
    else if t.any (· = ':') then do
      let parts ← (Text.fields ':' t).mapM (integerIn 10)
      pure (parts.foldl (fun n part => n * 60 + part) 0)
    else integerIn 10 t
  return if negative then -n else n

/-- The number that a text writes. -/
def decimalPart (t : Text) : Reading Double :=
  match Number.readDouble? t with
  | some x => .ok x
  | none => faulty (.malformedDecimal t)

/-- The sum of numbers, each sixty times as heavy as the one in front of it. -/
def sumSixties (sum : Double) (weight : Nat) : List Double → Reading Double
  | [] => .ok sum
  | x :: xs =>
    match Double.ofInt? weight with
    | some w => sumSixties (sum.add (x.mul w)) (weight * 60) xs
    | none => faulty .tooLarge

/-- A number with a point: in base ten or sixty, infinite, or undefined. -/
def readDecimal (t : Text) : Reading Double := do
  let (negative, t) ← signed t
  let t := t.lower
  let x ←
    if t = ".inf".toList then pure (.infinite false)
    else if t = ".nan".toList then return .undefined
    else if t.any (· = ':') then do
      let parts ← (Text.fields ':' t).mapM decimalPart
      sumSixties (.zero false) 1 parts.reverse
    else decimalPart t
  return if negative then x.neg else x

/-- A truth value. -/
def readBoolean (t : Text) : Reading Bool :=
  let word := t.lower
  if ["yes", "true", "on"].any (·.toList = word) then .ok true
  else if ["no", "false", "off"].any (·.toList = word) then .ok false
  else faulty (.malformedBoolean word)

/-- A year with a day more. -/
def isLeapYear (year : Nat) : Bool := year % 4 = 0 && (year % 100 ≠ 0 || year % 400 = 0)

/-- The days of a month. -/
def daysIn (year month : Nat) : Nat :=
  if month = 2 then (if isLeapYear year then 29 else 28)
  else if [4, 6, 9, 11].contains month then 30 else 31

/-- The first part of a moment that is out of range. -/
def Moment.fault? (m : Moment) : Option MomentPart :=
  let day : Int := 24 * 60
  let date :=
    if m.year = 0 then some (.year 0)
    else if m.month = 0 ∨ 12 < m.month then some .month
    else if m.day = 0 ∨ daysIn m.year m.month < m.day then some .day
    else none
  match m.time with
  | none => date
  | some (hour, minute, second) =>
    if m.offset ≤ -day ∨ day ≤ m.offset then
      some (.offset (m.offset.fdiv day) ((m.offset.fmod day).toNat * 60))
    else date <|>
      if 23 < hour then some .hour
      else if 59 < minute then some .minute
      else if 59 < second then some .second
      else none

/-- A moment. -/
def readMoment (t : Text) : Reading Moment :=
  match moment? 1 (dropFinalBreak t) with
  | none => faulty .malformedMoment
  | some m =>
    match m.fault? with
    | some part => faulty (.outOfRange part)
    | none => .ok m

/-- The number of bytes that letters, digits and two signs write, four for three bytes; other
characters do not count. `place` is the place in a group of four, `ended` the number of equals signs
read there. -/
def base64Bytes (place ended count : Nat) : Text → Option Nat
  | [] => if place = 0 then some count else none
  | c :: t =>
    if c = '=' then
      if 2 ≤ place then
        if 4 ≤ place + ended + 1 then some count else base64Bytes place (ended + 1) count t
      else base64Bytes place ended count t
    else if c.isAlphanum || c = '+' || c = '/' then
      base64Bytes ((place + 1) % 4) 0 (if place = 0 then count else count + 1) t
    else base64Bytes place ended count t

/-- Bytes. -/
def readBinary (t : Text) : Reading Nat :=
  if t.all (·.toNat < 128) then
    match base64Bytes 0 0 0 t with
    | some n => .ok n
    | none => .error .malformed
  else .error .malformed

/-- The value of a scalar. -/
def Value.ofScalar (tag : Tag) (t : Text) : Reading Value :=
  match tag with
  | .null => .ok .null
  | .boolean => (readBoolean t).map .boolean
  | .integer => (readInteger t).map .integer
  | .decimal => (readDecimal t).map .decimal
  | .text => .ok (.text t)
  | .moment => (readMoment t).map .moment
  | .binary => (readBinary t).map .bytes
  | .sequence | .mapping | .set | .pairs | .merge | .value | .other _ => .error .malformed

/-- A scalar of a kind makes a value; of the other kinds are collections, and keys that stand for
something else. -/
def Tag.isScalar : Tag → Bool
  | .null | .boolean | .integer | .decimal | .text | .moment | .binary => true
  | .sequence | .mapping | .set | .pairs | .merge | .value | .other _ => false

end ComponentBook.Yaml
