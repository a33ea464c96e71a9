/-! # Texts

A text is a list of characters, so that every operation on texts is an operation on lists and every
statement about them goes by induction. This file holds what all other files use:

* **`Text.contains`**, **`Text.dropPrefix?`**, **`Text.cut?`** — looking for one text in another;
* **`Text.search`** — the first place at which a pattern holds, the pattern seeing the character
  before that place and the text from there on;
* **`Text.occurrences`** — all places at which a pattern holds, left to right and without overlap;
* **`Text.join`**, **`Text.fields`** — joining with a separator and splitting at one character;
* **`Text.decimal`** — the decimal digits of a natural number. -/

namespace ComponentBook

/-- A text: a list of characters. -/
abbrev Text := List Char

instance : Coe String Text := ⟨String.toList⟩

namespace Text

/-- What follows `p` in `t`, when `t` starts with `p`. -/
def dropPrefix? : (p t : Text) → Option Text
  | [], t => some t
  | _ :: _, [] => none
  | a :: p, c :: t => if a = c then dropPrefix? p t else none

theorem dropPrefix?_eq_some_iff {p t r : Text} : dropPrefix? p t = some r ↔ t = p ++ r := by
  induction p generalizing t with
  | nil => simp [dropPrefix?]
  | cons a p ih =>
    cases t with
    | nil => simp [dropPrefix?]
    | cons c t =>
      by_cases h : a = c
      · simp [dropPrefix?, h, ih]
      · simp [dropPrefix?, h, Ne.symm h]

/-- `t` starts with `p`. -/
def startsWith (t p : Text) : Bool := p.isPrefixOf t

/-- `t` ends with `s`. -/
def endsWith (t s : Text) : Bool := s.isSuffixOf t

/-- The text before the first occurrence of `needle` and the text after it. -/
def cut? (needle : Text) : Text → Option (Text × Text)
  | [] => (dropPrefix? needle []).map fun r => ([], r)
  | c :: t =>
    match dropPrefix? needle (c :: t) with
    | some r => some ([], r)
    | none => (cut? needle t).map fun (before, after) => (c :: before, after)

/-- Nothing is lost by a cut. -/
theorem eq_append_of_cut? {needle t b a : Text} (h : cut? needle t = some (b, a)) :
    t = b ++ needle ++ a := by
  induction t generalizing b with
  | nil =>
    obtain ⟨r, hr, he⟩ := Option.map_eq_some_iff.1 h
    obtain ⟨rfl, rfl⟩ := Prod.mk.inj he
    simpa using dropPrefix?_eq_some_iff.1 hr
  | cons c t ih =>
    rw [cut?] at h
    split at h
    · next r hr =>
      obtain ⟨rfl, rfl⟩ := Prod.mk.inj (Option.some.inj h)
      simpa using dropPrefix?_eq_some_iff.1 hr
    · obtain ⟨⟨b', a'⟩, hb, he⟩ := Option.map_eq_some_iff.1 h
      obtain ⟨rfl, rfl⟩ := Prod.mk.inj he
      simp [ih hb]

/-- `needle` occurs in `t`. -/
def contains (t needle : Text) : Bool := (cut? needle t).isSome

/-- The first place of a text at which `pattern` holds: the text before it, and what the pattern
answers there. The pattern is shown the character before the place and the text from the place on;
`before` is the character in front of the whole text. -/
def search (pattern : Option Char → Text → Option α) (before : Option Char) :
    Text → Option (Text × α)
  | [] => (pattern before []).map fun a => ([], a)
  | c :: t =>
    match pattern before (c :: t) with
    | some a => some ([], a)
    | none => (search pattern (some c) t).map fun (skipped, a) => (c :: skipped, a)

/-- All places at which `pattern` holds, left to right and without overlap. The pattern answers
with a value and the rest of the text; each value is listed with the text skipped in front of it.
An answer that consumes nothing ends the list. -/
def occurrences (pattern : Text → Option (α × Text)) (t : Text) : List (Text × α) :=
  match search (fun _ u => pattern u) none t with
  | none => []
  | some (skipped, a, rest) =>
    if rest.length < t.length then (skipped, a) :: occurrences pattern rest else []
termination_by t.length

/-- The texts of a list, one after another with `sep` between them. -/
def join (sep : Text) : List Text → Text
  | [] => []
  | [t] => t
  | t :: ts => t ++ sep ++ join sep ts

@[simp] theorem join_nil (sep : Text) : join sep [] = [] := rfl

@[simp] theorem join_singleton (sep t : Text) : join sep [t] = t := rfl

@[simp] theorem join_cons_cons (sep t u : Text) (ts : List Text) :
    join sep (t :: u :: ts) = t ++ sep ++ join sep (u :: ts) := rfl

/-- The parts of a text between the occurrences of one character; at least one part. -/
def fields (sep : Char) : Text → List Text
  | [] => [[]]
  | c :: t =>
    if c = sep then [] :: fields sep t
    else match fields sep t with
      -- never met, as there is one part at least
      | [] => [[c]]
      | f :: fs => (c :: f) :: fs

theorem fields_ne_nil (sep : Char) (t : Text) : fields sep t ≠ [] := by
  cases t with
  | nil => simp [fields]
  | cons c t =>
    rw [fields]
    split
    · simp
    · split <;> simp

/-- Joining the fields gives the text back. -/
theorem join_fields (sep : Char) (t : Text) : join [sep] (fields sep t) = t := by
  induction t with
  | nil => rfl
  | cons c t ih =>
    rw [fields]
    split
    · next h =>
      cases hf : fields sep t with
      | nil => exact absurd hf (fields_ne_nil sep t)
      | cons f fs => rw [hf] at ih; simp [ih, h]
    · split
      · next hf => exact absurd hf (fields_ne_nil sep t)
      · next f fs hf =>
        rw [hf] at ih
        cases fs with
        | nil => simp_all
        | cons g gs => simp_all

/-- A space or a tab. -/
def isSpaceOrTab (c : Char) : Bool := c = ' ' || c = '\t'

/-- The longest part of `t` at its end made of characters with `p` is removed. -/
def dropRightWhile (p : Char → Bool) (t : Text) : Text := (t.reverse.dropWhile p).reverse

/-- The decimal digits of a natural number. -/
def decimal (n : Nat) : Text := Nat.toDigits 10 n

/-- The decimal text of an integer, with a minus sign in front when it is negative. -/
def signedDecimal : Int → Text
  | .ofNat n => decimal n
  | .negSucc n => '-' :: decimal (n + 1)

/-- The order of texts by code points. -/
def precedes : Text → Text → Bool
  | [], _ => true
  | _ :: _, [] => false
  | a :: s, b :: t => if a = b then precedes s t else a.toNat < b.toNat

/-- A text list in ascending order. -/
def sorted (ts : List Text) : List Text := ts.mergeSort precedes

end Text

end ComponentBook
