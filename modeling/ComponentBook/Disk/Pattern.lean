import ComponentBook.Disk.Failure

/-! # File name patterns

In a pattern a star stands for any characters, a question mark for one, and brackets for one of the
characters they list; every other character stands for itself. **`NamePattern.accepts`** says which
names a pattern stands for. A path pattern (**`PathPattern.ofText`**) has one pattern for each name,
and a name of two stars for directories at any depth. -/

namespace ComponentBook.Disk

/-- One piece of a name pattern. -/
inductive PatternPiece where
  /-- Any characters, also none. -/
  | star
  /-- Any character. -/
  | anyChar
  /-- One of the characters within bounds, or, when negated, any other. -/
  | oneOf (negated : Bool) (bounds : List (Char × Char))
  /-- The character itself. -/
  | char (c : Char)
  deriving DecidableEq, Repr

/-- A pattern for names. -/
abbrev NamePattern := List PatternPiece

/-- The character ranges that the text between brackets lists. A hyphen between two characters makes
a range of them; a hyphen that starts the text or follows a range stands for itself. -/
def listedRanges : Text → List (Char × Char)
  | a :: '-' :: b :: t => (a, b) :: listedRanges t
  | a :: t => (a, a) :: listedRanges t
  | [] => []

/-- The text up to the bracket that closes a list, and the text behind it. A bracket at the start is
listed itself. -/
def closedBrackets? (t : Text) : Option (Bool × Text × Text) :=
  let negated := t.startsWith ['!']
  let t := if negated then t.drop 1 else t
  let first := t.takeWhile (· = ']') |>.take 1
  match Text.cut? [']'] (t.drop first.length) with
  | some (listed, rest) => some (negated, first ++ listed, rest)
  | none => none

theorem length_of_closedBrackets? {t listed rest : Text} {negated : Bool}
    (h : closedBrackets? t = some (negated, listed, rest)) : rest.length < t.length := by
  unfold closedBrackets? at h
  simp only at h
  split at h
  · next cut =>
    simp only [Option.some.injEq, Prod.mk.injEq] at h
    obtain ⟨-, -, rfl⟩ := h
    have e := congrArg List.length (Text.eq_append_of_cut? cut)
    have : (if t.startsWith ['!'] then t.drop 1 else t).length ≤ t.length := by
      split <;> simp
    simp only [List.length_drop, List.length_append, List.length_cons, List.length_nil] at e
    omega
  · simp at h

/-- The pattern that a text writes. -/
def NamePattern.ofText : Text → NamePattern
  | [] => []
  | '*' :: t => .star :: NamePattern.ofText t
  | '?' :: t => .anyChar :: NamePattern.ofText t
  | '[' :: t =>
    match _ : closedBrackets? t with
    | some (negated, listed, rest) =>
      .oneOf negated (listedRanges listed) :: NamePattern.ofText rest
    | none => .char '[' :: NamePattern.ofText t
  | c :: t => .char c :: NamePattern.ofText t
termination_by t => t.length
decreasing_by
  all_goals simp
  have := length_of_closedBrackets? ‹closedBrackets? _ = _›
  omega

/-- The piece stands for the character. -/
def PatternPiece.acceptsChar : PatternPiece → Char → Bool
  | .star, _ => false
  | .anyChar, _ => true
  | .oneOf negated bounds, c => negated != bounds.any fun (lo, hi) => lo ≤ c ∧ c ≤ hi
  | .char d, c => c = d

/-- A property holds at some end of a text: the text itself, the text without its first character, and
so on. -/
def someEnd (p : Text → Bool) : Text → Bool
  | [] => p []
  | c :: t => p (c :: t) || someEnd p t

/-- The pattern stands for the name. -/
def NamePattern.accepts : NamePattern → Text → Bool
  | [], t => t.isEmpty
  | .star :: p, t => someEnd (NamePattern.accepts p) t
  | _ :: _, [] => false
  | piece :: p, c :: t => piece.acceptsChar c && NamePattern.accepts p t

/-- One step of a path pattern. -/
inductive PatternStep where
  /-- The directory reached so far and the directories below it. -/
  | anyDepth
  /-- A name that the pattern accepts. -/
  | name (pattern : NamePattern)
  /-- Exactly this name. -/
  | exactly (name : Text)
  /-- A slash at the end: what has been reached, if it is a directory. -/
  | slash
  deriving DecidableEq, Repr

/-- A pattern for paths. -/
abbrev PathPattern := List PatternStep

/-- The step that a name of a path pattern writes. -/
def PatternStep.ofText (t : Text) : Except Failure PatternStep :=
  if t = ['*', '*'] then .ok .anyDepth
  else if t.contains ['*', '*'] then .error .misplacedStars
  else if t.any fun c => c = '*' || c = '?' || c = '[' then .ok (.name (NamePattern.ofText t))
  else .ok (.exactly t)

/-- The relative path pattern that a text writes. -/
def PathPattern.ofText (t : Text) : Except Failure PathPattern := do
  let steps ← (Path.ofText t).names.mapM PatternStep.ofText
  return steps ++ if t.endsWith ['/'] then [.slash] else []

end ComponentBook.Disk
