import ComponentBook.Batch.Run
import ComponentBook.Json.Value

/-! # Calls to the service

The service offers three **`Operation`**s. A **`Call`** is an operation with its arguments;
**`Operation.call`** reads it from the payload of a request, or complains about every part of the
payload that does not fit, and **`Call.plan`** is the run that the call asks for. -/

namespace ComponentBook.Service

open Json (Value Codes)

/-- What the service can be asked to do. -/
inductive Operation where
  /-- All components documented. -/
  | all
  /-- One component documented. -/
  | component
  /-- The staged components documented. -/
  | staged
  deriving DecidableEq, Repr

/-- An operation with its arguments. -/
inductive Call where
  | all (staging : Option Bool)
  | component (name : Text) (staging : Option Bool)
  /-- One component documented whose name is no text, so that there is none. -/
  | unnameable (name : Codes)
  | staged (staging : Bool)
  deriving DecidableEq, Repr

/-- The run that a call asks for. -/
def Call.plan (s : Settings) : Call → ExceptT Failure Plan BatchReport
  | .all staging => Batch.all s staging
  | .component name staging => Batch.component s name staging
  | .unnameable _ => Batch.unnameable s
  | .staged staging => Batch.staged s (some staging)

/-- What a request carries. -/
inductive Payload where
  /-- Nothing. -/
  | absent
  /-- A JSON value. -/
  | json (v : Value)
  /-- Something that is not said to be JSON. -/
  | foreign (t : Text)

/-- What is wrong with a part of a payload. -/
inductive ComplaintKind where
  /-- It is not there. -/
  | missing
  /-- It should be a text. -/
  | notText
  /-- It should be a text of characters. -/
  | brokenText
  /-- It should be a truth value. -/
  | notBoolean
  /-- It should be a number or a text that stands for a truth value. -/
  | unclearBoolean
  /-- It should be an object. -/
  | notObject
  /-- It should be JSON. -/
  | notJson
  deriving DecidableEq, Repr

/-- The word for a complaint. -/
def ComplaintKind.code : ComplaintKind → Text
  | .missing => "missing".toList
  | .notText => "string_type".toList
  | .brokenText => "string_unicode".toList
  | .notBoolean => "bool_type".toList
  | .unclearBoolean => "bool_parsing".toList
  | .notObject => "model_attributes_type".toList
  | .notJson => "json_invalid".toList

/-- The text of a complaint. -/
def ComplaintKind.message : ComplaintKind → Text
  | .missing => "Field required".toList
  | .notText => "Input should be a valid string".toList
  | .brokenText =>
    "Input should be a valid string, unable to parse raw data as a unicode string".toList
  | .notBoolean => "Input should be a valid boolean".toList
  | .unclearBoolean => "Input should be a valid boolean, unable to interpret input".toList
  | .notObject => "Input should be a valid dictionary or object to extract fields from".toList
  | .notJson => "JSON decode error".toList

/-- What is wrong, where in the request, and with what. -/
structure Complaint where
  kind : ComplaintKind
  place : List Text
  input : Value

/-- The start of the names of members that are not repeated in a complaint. -/
def privateStart : Text := "_sa".toList

/-- A complaint as a value. -/
def Complaint.toJson (c : Complaint) : Value := .ofMembers [
  ("type".toList, .text c.kind.code),
  ("loc".toList, .array (c.place.map .text)),
  ("msg".toList, .text c.kind.message),
  ("input".toList, c.input.keepMembers fun name => !(Codes.ofText privateStart).isPrefixOf name)]

/-- Where the payload of a request is. -/
def payloadPlace : List Text := ["body".toList]

/-- The name of the argument with the name of a component. -/
def nameKey : Text := "component_name".toList

/-- The name of the argument that says whether pages are staged. -/
def stagingKey : Text := "stage".toList

/-- The words that stand for true, in lower case. -/
def trueWords : List Text := ["1", "t", "y", "on", "yes", "true"].map String.toList

/-- The words that stand for false, in lower case. -/
def falseWords : List Text := ["0", "f", "n", "off", "no", "false"].map String.toList

/-- The truth value of a word. -/
def readTruth (t : Text) : Except ComplaintKind Bool :=
  let word := t.map Char.toLower
  if trueWords.contains word then .ok true
  else if falseWords.contains word then .ok false
  else .error .unclearBoolean

/-- The least number that does not fit into a word of eight bytes with a sign. -/
def wordBound : Int := 0x8000000000000000

/-- The truth value of a number. -/
def readNumber (n : Int) : Except ComplaintKind Bool :=
  if n = 0 then .ok false else if n = 1 then .ok true else .error .unclearBoolean

/-- The truth value that a value stands for: itself, zero or one, or a word. Numbers that are not whole
or do not fit into a word are not even considered. -/
def readBoolean : Value → Except ComplaintKind Bool
  | .boolean b => .ok b
  | .integer n => if -wordBound ≤ n ∧ n < wordBound then readNumber n else .error .notBoolean
  -- unlike a whole number, a decimal at the lower bound is not considered
  | .decimal x =>
    match x.toInt? with
    | some n => if -wordBound < n ∧ n < wordBound then readNumber n else .error .notBoolean
    | none => .error .notBoolean
  | .string codes =>
    match codes.text? with
    | some t => readTruth t
    | none => .error .brokenText
  | _ => .error .notBoolean

/-- The truth value that a value stands for; nothing stands for none. -/
def readOptionalBoolean : Value → Except ComplaintKind (Option Bool)
  | .null => .ok none
  | v => (readBoolean v).map some

/-- The code points of the text that a value is. -/
def readText : Value → Except ComplaintKind Codes
  | .string codes => .ok codes
  | _ => .error .notText

/-- An argument, or the complaint about it. An argument that is not there is `unsaid`, if it may be
left out. -/
def argument {α : Type} (v : Value) (key : Text) (unsaid : Option α)
    (readValue : Value → Except ComplaintKind α) : Except (List Complaint) α :=
  let complain (input : Value) (kind : ComplaintKind) : List Complaint :=
    [{ kind, place := payloadPlace ++ [key], input }]
  match v.get? key, unsaid with
  | some v, _ => (readValue v).mapError (complain v)
  | none, some a => .ok a
  | none, none => .error (complain v .missing)

/-- Two arguments, or the complaints about both. -/
def both {α β : Type} : Except (List Complaint) α → Except (List Complaint) β →
    Except (List Complaint) (α × β)
  | .ok a, .ok b => .ok (a, b)
  | .ok _, .error e => .error e
  | .error e, .ok _ => .error e
  | .error e, .error e' => .error (e ++ e')

/-- The call for the component with a name. -/
def Call.ofName (name : Codes) (staging : Option Bool) : Call :=
  match name.text? with
  | some t => .component t staging
  | none => .unnameable name

/-- The call that an object holds the arguments of. -/
def Operation.callOf (o : Operation) (v : Value) : Except (List Complaint) Call :=
  match o with
  | .all => (argument v stagingKey (some none) readOptionalBoolean).map .all
  | .component =>
    (both (argument v nameKey none readText)
      (argument v stagingKey (some none) readOptionalBoolean)).map fun (name, staging) =>
        .ofName name staging
  | .staged => (argument v stagingKey (some true) readBoolean).map .staged

/-- The call of an operation whose payload says nothing. Only an operation without arguments that it
needs can do without a payload. -/
def Operation.callUnsaid (o : Operation) (kind : ComplaintKind) : Except (List Complaint) Call :=
  match o with
  | .component => .error [{ kind, place := payloadPlace, input := .null }]
  | o => o.callOf (.object [])

/-- The call of an operation with a payload. -/
def Operation.call (o : Operation) : Payload → Except (List Complaint) Call
  | .absent => o.callUnsaid .missing
  | .json .null => o.callUnsaid .notObject
  | .json (.object members) => o.callOf (.object members)
  | .json v => .error [{ kind := .notObject, place := payloadPlace, input := v }]
  | .foreign t => .error [{ kind := .notObject, place := payloadPlace, input := .text t }]

end ComponentBook.Service
