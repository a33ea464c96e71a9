import ComponentBook.Text.Basic

/-! # Paths

A path is the number of slashes it starts with and its names. **`Path.ofText`** reads a path, leaving
out empty names and the name `.`; the name `..` is kept, since what it leads to depends on the way
to it. **`Path.text`** writes a path, **`Path.join`** puts one path after another, and
**`Path.resolved`** takes the names `..` away. -/

namespace ComponentBook

/-- A path. It is relative when it starts with no slash; two slashes at its start are kept apart from
one. -/
structure Path where
  /-- How many slashes the path starts with: none, one or two. -/
  slashes : Nat := 0
  /-- The names along the path. -/
  names : List Text
  deriving DecidableEq, Repr, Inhabited

namespace Path

/-- How many slashes count at the start of a path: three and more are one. -/
def leadingSlashes (t : Text) : Nat :=
  match (t.takeWhile (· = '/')).length with
  | 0 => 0
  | 2 => 2
  | _ => 1

/-- The path that a text writes. -/
def ofText (t : Text) : Path where
  slashes := leadingSlashes t
  names := (Text.fields '/' t).filter fun n => n ≠ [] ∧ n ≠ ['.']

/-- The path starts at the root of the tree. -/
def isAbsolute (p : Path) : Bool := p.slashes ≠ 0

/-- The text of a path; a relative path without names is a dot. -/
def text (p : Path) : Text :=
  if p.slashes = 0 ∧ p.names = [] then ['.']
  else List.replicate p.slashes '/' ++ Text.join ['/'] p.names

/-- `q` from `p` on: `q` itself when it is absolute. -/
def join (p q : Path) : Path :=
  if q.isAbsolute then q else { p with names := p.names ++ q.names }

/-- `p` with one more name, which may itself be a text of several names. -/
def child (p : Path) (t : Text) : Path := p.join (ofText t)

/-- The path without its last name. -/
def parent (p : Path) : Path := { p with names := p.names.dropLast }

/-- The last name, empty when there is none. -/
def name (p : Path) : Text := p.names.getLast?.getD []

/-- A name without what follows its last dot. A dot at the start or the end of the name does not
count. -/
def stemOf (name : Text) : Text :=
  let suffix := (name.reverse.takeWhile (· ≠ '.')).length
  if suffix = 0 ∨ name.length ≤ suffix + 1 then name else name.take (name.length - suffix - 1)

/-- The last name without what follows its last dot. -/
def stem (p : Path) : Text := stemOf p.name

/-- Names with each `..` taken away together with the name in front of it. -/
def withoutParents (names : List Text) : List Text :=
  (names.foldl (fun out n => if n = ['.', '.'] then out.tail else n :: out) []).reverse

/-- The absolute path that `p` leads to from the directory `from`. -/
def resolved («from» p : Path) : Path where
  slashes := 1
  names := withoutParents («from».join p).names

/-- The names of `p` below `q`, when `p` lies below `q` or is `q`. -/
def below? (q p : Path) : Option (List Text) :=
  if p.slashes = q.slashes ∧ q.names.isPrefixOf p.names then some (p.names.drop q.names.length)
  else none

/-- The text of `p` below `q`, or of `p` itself when it does not lie there. -/
def textBelow (q p : Path) : Text :=
  match below? q p with
  | some names => text { names }
  | none => p.text

/-- The order of name lists: name by name, each name by code points. -/
def precedesByName : List Text → List Text → Bool
  | [], _ => true
  | _ :: _, [] => false
  | a :: s, b :: t => if a = b then precedesByName s t else Text.precedes a b

/-- The order of paths. -/
def precedes (p q : Path) : Bool :=
  precedesByName (List.replicate p.slashes '/' :: p.names)
    (List.replicate q.slashes '/' :: q.names)

/-- A path list in ascending order. -/
def sorted (ps : List Path) : List Path := ps.mergeSort precedes

end Path

end ComponentBook
