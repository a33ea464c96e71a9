import ComponentBook.Text.Basic

/-! # Properties of a component

A **`Property`** is one documented input of a component. **`mergeProperties`** combines the lists
that several ways of reading a script have found, under a **`MergePolicy`**. -/

namespace ComponentBook

/-- One configurable input of a component. -/
structure Property where
  /-- The name under which a value is given. -/
  name : Text
  /-- The declared type, as it is written. -/
  type : Text
  /-- Whether a value has to be given. -/
  required : Bool := false
  /-- The declared default, as it is written. -/
  default : Option Text := none
  /-- What the property is for. -/
  description : Text := []
  /-- The kind of declaration that the property was read from. -/
  source : Text := []
  deriving DecidableEq, Repr, Inhabited

/-- How the lists found in different ways become one list. -/
inductive MergePolicy where
  /-- Of the properties of one name the first is kept. -/
  | dedupe
  /-- All properties are kept. -/
  | concat
  /-- The first list that is not empty is kept. -/
  | first
  deriving DecidableEq, Repr

/-- The word for a policy. -/
def MergePolicy.code : MergePolicy → Text
  | .dedupe => "dedupe"
  | .concat => "concat"
  | .first => "first"

/-- The policies in the order in which messages list them. -/
def MergePolicy.all : List MergePolicy := [.dedupe, .concat, .first]

/-- The policy that a word stands for. -/
def MergePolicy.ofCode? (code : Text) : Option MergePolicy :=
  MergePolicy.all.find? fun p => p.code == code

/-- The properties whose names are neither in `seen` nor among the names before them. -/
def firstOfEachName (seen : List Text) : List Property → List Property
  | [] => []
  | p :: ps =>
    if seen.contains p.name then firstOfEachName seen ps
    else p :: firstOfEachName (p.name :: seen) ps

/-- One list of properties out of several. -/
def mergeProperties (policy : MergePolicy) (results : List (List Property)) : List Property :=
  match policy with
  | .first => (results.find? fun ps => !ps.isEmpty).getD []
  | .dedupe => firstOfEachName [] results.flatten
  | .concat => results.flatten

end ComponentBook
