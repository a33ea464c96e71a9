import ComponentBook.Disk.Failure
import ComponentBook.Text.Lines

/-! # A disk

A disk is a list of places, each holding a file or a directory, together with a working directory
and a clock. A path is walked name by name (**`Disk.walk`**), so that what stands on the way decides
which fault shows. On the walk rest reading (**`Disk.read`**), writing (**`Disk.write`**,
**`Disk.append`**), making directories (**`Disk.makeDirectories`**) and removing (**`Disk.remove`**).
Writing one place leaves every other place as it is (`entryAt?_put_of_ne`). -/

namespace ComponentBook

/-- A place on a disk: the names that lead to it from the root. -/
abbrev Location := List Text

/-- What a file holds: a text, or bytes that are no text. -/
inductive Content where
  | text (t : Text)
  | bytes (bs : List UInt8)
  deriving DecidableEq, Repr

/-- The content that bytes make. -/
def Content.ofBytes (bs : List UInt8) : Content :=
  match Text.ofUtf8 bs with
  | .ok t => .text t
  | .error _ => .bytes bs

/-- The bytes of a content. -/
def Content.toBytes : Content → List UInt8
  | .text t => t.utf8
  | .bytes bs => bs

/-- The number of bytes of a content. -/
def Content.size : Content → Nat
  | .text t => t.utf8Length
  | .bytes bs => bs.length

/-- A file: what it holds and when that was last written. -/
structure File where
  content : Content
  modified : Int
  deriving DecidableEq, Repr

/-- What stands at a place. -/
inductive Entry where
  | directory
  | file (f : File)
  deriving DecidableEq, Repr

/-- A disk. The root is a directory that is not listed. -/
structure Disk where
  /-- What stands where. -/
  entries : List (Location × Entry) := []
  /-- Where relative paths start. -/
  workingDirectory : Location := []
  /-- The time of the next write. -/
  clock : Int := 0
  /-- The home directories of users; the empty name is the one who runs the program. -/
  homes : List (Text × Path) := []

namespace Disk

/-- The most bytes that a name can have. -/
def nameLimit : Nat := 255

/-- The most bytes that a path can have. -/
def pathLimit : Nat := 4095

/-- What stands at a place. -/
def entryAt? (d : Disk) (l : Location) : Option Entry :=
  if l = [] then some .directory else d.entries.lookup l

/-- `e` put at a place. -/
def put (d : Disk) (l : Location) (e : Entry) : Disk :=
  { d with entries := (l, e) :: d.entries.filter (·.1 != l) }

theorem lookup_filter_bne {l k : Location} (h : k ≠ l) (es : List (Location × Entry)) :
    (es.filter (·.1 != l)).lookup k = es.lookup k := by
  induction es with
  | nil => rfl
  | cons e es ih =>
    obtain ⟨m, e⟩ := e
    by_cases hm : m = l
    · have hk : (k == m) = false := by simp [hm, h]
      have hl : ((m, e).1 != l) = false := by simp [hm]
      rw [List.filter_cons_of_neg (by simp [hl]), ih, List.lookup_cons, hk]
    · have hl : ((m, e).1 != l) = true := by simp [hm]
      rw [List.filter_cons_of_pos (by simp [hl]), List.lookup_cons, List.lookup_cons, ih]

/-- What is put stands there. -/
@[simp] theorem entryAt?_put (d : Disk) {l : Location} (h : l ≠ []) (e : Entry) :
    (d.put l e).entryAt? l = some e := by
  simp [entryAt?, put, h]

/-- Every other place stays as it is. -/
theorem entryAt?_put_of_ne (d : Disk) {l k : Location} (h : k ≠ l) (e : Entry) :
    (d.put l e).entryAt? k = d.entryAt? k := by
  have hk : (k == l) = false := by simp [h]
  simp only [entryAt?, put, List.lookup_cons, hk, lookup_filter_bne h]

/-! ## Walking -/

/-- The names from the root that an absolute or relative path goes through. -/
def namesOf (d : Disk) (p : Path) : List Text :=
  if p.isAbsolute then p.names else d.workingDirectory ++ p.names

/-- The place one name further on. -/
def step (d : Disk) (l : Location) (name : Text) : Except Fault Location :=
  if d.entryAt? l = some .directory then
    -- the root is its own parent
    if name = ['.', '.'] then .ok l.dropLast
    else if nameLimit < name.utf8Length then .error .nameTooLong
    else .ok (l ++ [name])
  else .error .notADirectory

/-- The place to which names lead from `l`; there must be something at every place on the way and at
its end. -/
def walk (d : Disk) (l : Location) : List Text → Except Fault Location
  | [] => if (d.entryAt? l).isSome then .ok l else .error .missing
  | name :: names =>
    if (d.entryAt? l).isSome then
      match d.step l name with
      | .ok next => walk d next names
      | .error fault => .error fault
    else .error .missing

/-- The path is longer than a file system takes. -/
def tooLong (p : Path) : Bool := pathLimit < p.text.utf8Length

/-- The place to which a path leads. -/
def find (d : Disk) (p : Path) : Except Fault Location :=
  if tooLong p then .error .nameTooLong else d.walk [] (d.namesOf p)

/-- The place to which a path leads; there need not be anything there yet. -/
def place (d : Disk) (p : Path) : Except Fault Location :=
  if tooLong p then .error .nameTooLong else
  match (d.namesOf p).getLast? with
  | none => .ok []
  -- only the way to the last name has to exist
  | some last => do d.step (← d.walk [] (d.namesOf p).dropLast) last

/-- A path with a character that no name can have. -/
def hasNul (p : Path) : Bool := p.names.any (·.any (· = '\x00'))

/-- What a path leads to, if anything. A path that cannot exist leads to nothing, but one that is too
long is a failure. -/
def look (d : Disk) (p : Path) : Except Failure (Option Entry) :=
  if hasNul p then .ok none else
  match d.find p with
  | .ok l => .ok (d.entryAt? l)
  | .error .nameTooLong => .error (.fault .nameTooLong p.text)
  | .error _ => .ok none

/-- The path leads to something. -/
def exists? (d : Disk) (p : Path) : Except Failure Bool := do return (← d.look p).isSome

/-- The path leads to a directory. -/
def isDirectory (d : Disk) (p : Path) : Except Failure Bool := do
  return (← d.look p) = some .directory

/-- What a path leads to is a file. -/
def isFileEntry : Option Entry → Bool
  | some (.file _) => true
  | _ => false

/-- The path leads to a file. -/
def isFile (d : Disk) (p : Path) : Except Failure Bool := do return isFileEntry (← d.look p)

/-- The file to which a path leads. -/
def file (d : Disk) (p : Path) : Except Failure File :=
  if hasNul p then .error .nulInPath else
  match d.find p with
  | .error fault => .error (.fault fault p.text)
  | .ok l =>
    match d.entryAt? l with
    | some (.file f) => .ok f
    | some .directory => .error (.fault .isADirectory p.text)
    | none => .error (.fault .missing p.text)

/-- The text of a content, its line ends made line feeds. -/
def readContent : Content → Except Failure Text
  | .text t => .ok t.unifyNewlines
  | .bytes bs =>
    match Text.ofUtf8 bs with
    | .ok t => .ok t.unifyNewlines
    | .error e => .error (.notText e)

/-- The text of the file to which a path leads. -/
def read (d : Disk) (p : Path) : Except Failure Text := do readContent (← d.file p).content

/-! ## Writing -/

/-- A file put where a path leads, over an earlier file. -/
def store (d : Disk) (p : Path) (f : File) : Except Failure Disk :=
  if hasNul p then .error .nulInPath else
  match d.place p with
  | .error fault => .error (.fault fault p.text)
  | .ok l =>
    if d.entryAt? l = some .directory then .error (.fault .isADirectory p.text)
    else .ok (d.put l (.file f))

/-- A text written where a path leads. -/
def write (d : Disk) (p : Path) (t : Text) : Except Failure Disk :=
  (d.store p { content := .text t, modified := d.clock }).map
    fun d => { d with clock := d.clock + 1 }

/-- A text written at the end of the file to which a path leads, which may be new. -/
def append (d : Disk) (p : Path) (t : Text) : Except Failure Disk :=
  let before := match d.file p with
    | .ok f => f.content
    | .error _ => .text []
  let content := match before with
    | .text s => .text (s ++ t)
    | .bytes bs => Content.ofBytes (bs ++ t.utf8)
  (d.store p { content, modified := d.clock }).map fun d => { d with clock := d.clock + 1 }

/-- A directory made where a path leads. -/
def makeDirectory (d : Disk) (p : Path) : Except Fault Disk :=
  match d.place p with
  | .error fault => .error fault
  | .ok l => if (d.entryAt? l).isSome then .error .taken else .ok (d.put l .directory)

/-- What a fault met while making a directory comes to: nothing, when there is a directory. -/
def settle (d : Disk) (p : Path) (fault : Fault) : Except Failure Unit :=
  match d.isDirectory p with
  | .ok true => .ok ()
  | .ok false => .error (.fault fault p.text)
  | .error e => .error e

/-- A directory made where a path leads, together with the directories missing on the way. The
directories made before a fault shows stay. -/
def makeDirectories (d : Disk) (p : Path) : Except Failure Unit × Disk :=
  if hasNul p then (.error .nulInPath, d) else
  match d.makeDirectory p with
  | .ok d => (.ok (), d)
  | .error .missing =>
    if _ : p.names = [] then (.error (.fault .missing p.text), d) else
    -- the directories on the way are made, and then this one is tried once more
    match makeDirectories d p.parent with
    | (.error e, d) => (.error e, d)
    | (.ok (), d) =>
      match d.makeDirectory p with
      | .ok d => (.ok (), d)
      | .error .missing => (.error (.fault .missing p.text), d)
      | .error fault => (d.settle p fault, d)
  | .error fault => (d.settle p fault, d)
termination_by p.names.length
decreasing_by
  have := List.length_pos_iff.2 ‹p.names ≠ []›
  simp [Path.parent]; omega

/-- A text written where a path leads, in a directory that is made when it is missing. -/
def writeWithDirectories (d : Disk) (p : Path) (t : Text) : Except Failure Unit × Disk :=
  match d.makeDirectories p.parent with
  | (.error e, d) => (.error e, d)
  | (.ok (), d) =>
    match d.write p t with
    | .ok d => (.ok (), d)
    | .error e => (.error e, d)

/-- Everything at and below the place to which a path leads is taken away. -/
def remove (d : Disk) (p : Path) : Disk :=
  match d.find p with
  | .ok l => { d with entries := d.entries.filter fun e => !l.isPrefixOf e.1 }
  | .error _ => d

end Disk

end ComponentBook
