import ComponentBook.Text.Quoted

/-! # Values that cannot be made

A document may be well written and still name a value that does not exist: a number of no digits, the
thirteenth month. **`Yaml.Fault`** names these causes. -/

namespace ComponentBook.Yaml

/-- A part of a date or a time that is out of range. -/
inductive MomentPart where
  | year (n : Nat)
  | month
  | day
  | hour
  | minute
  | second
  /-- A difference to universal time of so many days and seconds. -/
  | offset (days : Int) (seconds : Nat)
  deriving DecidableEq, Repr

/-- The text about a part that is out of range. -/
def MomentPart.message : MomentPart → Text
  | .year n => "year ".toList ++ Text.decimal n ++ " is out of range".toList
  | .month => "month must be in 1..12".toList
  | .day => "day is out of range for month".toList
  | .hour => "hour must be in 0..23".toList
  | .minute => "minute must be in 0..59".toList
  | .second => "second must be in 0..59".toList
  | .offset days seconds =>
    "offset must be a timedelta strictly between -timedelta(hours=24) and ".toList ++
      "timedelta(hours=24), not datetime.timedelta(days=".toList ++ Text.signedDecimal days ++
      (if seconds = 0 then [] else ", seconds=".toList ++ Text.decimal seconds) ++ ").".toList

/-- Why a value cannot be made. -/
inductive Fault where
  /-- A text that is to be a whole number is none. -/
  | malformedInteger (base : Nat) (text : Text)
  /-- A text that is to be a number is none. -/
  | malformedDecimal (text : Text)
  /-- A number is to be made of no text at all. -/
  | emptyNumber
  /-- A text that is to be true or false is neither. -/
  | malformedBoolean (text : Text)
  /-- A text that is to be a date is none. -/
  | malformedMoment
  /-- A date or a time does not exist. -/
  | outOfRange (part : MomentPart)
  /-- A number is read that has more digits than a number may have. -/
  | tooManyDigits (limit count : Nat)
  /-- A number is written that has more digits than a number may have. -/
  | tooLongToWrite (limit : Nat)
  /-- A whole number is too large for a number with a point. -/
  | tooLarge
  /-- There is no character with the number. -/
  | noCharacter
  /-- The number of a character does not even fit into a word. -/
  | characterTooLarge
  /-- A collection is to be a date. -/
  | momentOfCollection
  /-- A value stands for itself. -/
  | endless
  /-- Too many collections stand within each other. -/
  | tooDeep
  deriving DecidableEq, Repr

/-- The start of the text about numbers with too many digits. -/
def digitLimitMessage (limit : Nat) : Text :=
  "Exceeds the limit (".toList ++ Text.decimal limit ++
    " digits) for integer string conversion".toList

/-- The text of a fault. -/
def Fault.message : Fault → Text
  | .malformedInteger base text =>
    "invalid literal for int() with base ".toList ++ Text.decimal base ++ ": ".toList ++ text.quoted
  | .malformedDecimal text => "could not convert string to float: ".toList ++ text.quoted
  | .emptyNumber => "string index out of range".toList
  | .malformedBoolean text => text.quoted
  | .malformedMoment => "'NoneType' object has no attribute 'groupdict'".toList
  | .outOfRange part => part.message
  | .tooManyDigits limit count =>
    digitLimitMessage limit ++ ": value has ".toList ++ Text.decimal count ++
      " digits; use sys.set_int_max_str_digits() to increase the limit".toList
  | .tooLongToWrite limit =>
    digitLimitMessage limit ++ "; use sys.set_int_max_str_digits() to increase the limit".toList
  | .tooLarge => "int too large to convert to float".toList
  | .noCharacter => "chr() arg not in range(0x110000)".toList
  | .characterTooLarge => "Python int too large to convert to C int".toList
  | .momentOfCollection => "expected string or bytes-like object, got 'list'".toList
  | .endless => "maximum recursion depth exceeded".toList
  | .tooDeep => "maximum recursion depth exceeded".toList

end ComponentBook.Yaml
