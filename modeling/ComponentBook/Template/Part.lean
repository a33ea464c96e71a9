import ComponentBook.Template.Basic
import ComponentBook.Text.Blank

/-! # Parts of values

Values of the template language have parts, which an expression asks for by name or by place.
**`Value.part`** and **`Value.element`** give them; what does not exist is a missing value, and a part
of a missing value is an error. Texts, lists and numbers also have operations: a template cannot
perform them, but it can ask whether they exist. -/

namespace ComponentBook.Template

/-- The word for what a value is. -/
def Value.kind : Value → Text
  | .missing _ => "Undefined"
  | .null => "NoneType"
  | .text _ => "str"
  | .number _ => "int"
  | .flag _ => "bool"
  | .list true _ => "tuple"
  | .list false _ => "list"
  | .record kind _ => kind
  | .object kind _ _ => kind
  | .operation kind _ => kind

/-- The word for what a value is, without the names of what it belongs to. -/
def Value.shortKind (v : Value) : Text := (v.kind.reverse.takeWhile (· ≠ '.')).reverse

/-- What the reason of an absence calls the value. -/
def Value.ownerName : Value → Text
  | .null => "None"
  | v => v.kind ++ " object".toList

/-- The operations of texts. -/
def textOperations : List Text :=
  Text.words
    ("capitalize casefold center count encode endswith expandtabs find format format_map index " ++
      "isalnum isalpha isascii isdecimal isdigit isidentifier islower isnumeric isprintable " ++
      "isspace istitle isupper join ljust lower lstrip maketrans partition removeprefix " ++
      "removesuffix replace rfind rindex rjust rpartition rsplit rstrip split splitlines " ++
      "startswith strip swapcase title translate upper zfill").toList

/-- The operations of lists that are not fixed. -/
def listOperations : List Text :=
  Text.words "append clear copy count extend index insert pop remove reverse sort".toList

/-- The operations of fixed lists. -/
def fixedOperations : List Text := Text.words "count index".toList

/-- The operations of numbers and truth values. -/
def numberOperations : List Text :=
  Text.words "as_integer_ratio bit_count bit_length conjugate from_bytes to_bytes".toList

/-- The operations of a value. -/
def Value.operations : Value → List Text
  | .text _ => textOperations
  | .list fixed _ => if fixed then fixedOperations else listOperations
  | .number _ => numberOperations
  | .flag _ => numberOperations
  | _ => []

/-- The parts of a number. -/
def numberParts (n : Nat) : List (Text × Value) := [
  ("real".toList, .number n), ("imag".toList, .number 0), ("numerator".toList, .number n),
  ("denominator".toList, .number 1)]

/-- The parts of a value that are values themselves. -/
def Value.fields : Value → List (Text × Value)
  | .number n => numberParts n
  | .flag b => numberParts b.toNat
  | .record _ fields => fields
  | .object _ _ parts => parts
  | _ => []

/-- A part of a value, by its name. -/
def Value.part (v : Value) (field : Text) : Except Error Value :=
  match v with
  | .missing absence => .error (.missing absence)
  | v =>
    match v.fields.lookup field with
    | some part => .ok part
    | none =>
      if v.operations.contains field then .ok (.operation "builtin_function_or_method".toList field)
      else .ok (.missing (.part v.ownerName field))

/-- The items of a value that has any. -/
def Value.items? : Value → Option (List Value)
  | .text t => some (t.map fun c => .text [c])
  | .list _ items => some items
  | _ => none

/-- A part of a value, by its place. -/
def Value.element (v : Value) (place : Nat) : Except Error Value :=
  match v with
  | .missing absence => .error (.missing absence)
  | v => .ok (((v.items?.getD [])[place]?).getD (.missing (.element v.ownerName place)))

/-- The items of a value that a loop runs over. -/
def Value.items (v : Value) : Except Error (List Value) :=
  match v, v.items? with
  | .missing _, _ => .ok []
  | _, some items => .ok items
  | v, none => .error (.notIterable v.shortKind)

end ComponentBook.Template
