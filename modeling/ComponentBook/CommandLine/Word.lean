import ComponentBook.CommandLine.Misuse
import ComponentBook.Text.Digit

/-! # Arguments as words

An argument is a value, a switch, or something written like a switch that is none; two hyphens mark
that everything behind them is a value. **`Word.ofArgument`** tells what an argument is, given the
switches that can stand there: a long spelling may be cut short as long as it is clear which one is
meant, and its value may follow an equals sign; to a short spelling anything may be attached. -/

namespace ComponentBook.CommandLine

/-- A switch as an argument writes it. -/
structure WrittenSwitch where
  switch : Switch
  /-- The spelling is a short one. -/
  short : Bool
  /-- What is attached to the spelling. -/
  attached : Option Text := none
  deriving DecidableEq, Repr

/-- What an argument is. -/
inductive Word where
  /-- A value. -/
  | plain (text : Text)
  /-- The first two hyphens. -/
  | mark
  /-- A switch, with what is attached to it. -/
  | switch (written : WrittenSwitch)
  /-- Something written like a switch. -/
  | unknown (text : Text)
  deriving DecidableEq, Repr

/-- The two hyphens behind which everything is a value. -/
def markText : Text := ['-', '-']

/-- The switches with their spellings, in order. -/
def spelled (switches : List Switch) : List (Switch × Text) :=
  switches.flatMap fun s => s.spellings.map fun spelling => (s, spelling)

/-- A text in front of its first equals sign, and what is behind it. -/
def cutAtEquals (t : Text) : Text × Option Text :=
  match Text.cut? ['='] t with
  | some (front, rest) => (front, some rest)
  | none => (t, none)

/-- The switch with a spelling. -/
def switchOf? (switches : List Switch) (spelling : Text) : Option Switch :=
  switches.find? fun s => s.spellings.contains spelling

/-- A spelling is a short one: it starts with one hyphen only. -/
def isShort (spelling : Text) : Bool := !spelling.startsWith markText

/-- The switches that an argument may mean, each with its spelling. A long spelling may be cut short;
to a short one anything may be attached. -/
def meanings (switches : List Switch) (t : Text) : List (WrittenSwitch × Text) :=
  if isShort t then
    ((spelled switches).filter fun (_, spelling) => spelling == t.take 2).map
      fun (s, spelling) => (⟨s, true, some (t.drop 2)⟩, spelling)
  else
    let (front, value) := cutAtEquals t
    ((spelled switches).filter fun (_, spelling) => spelling.startsWith front).map
      fun (s, spelling) => (⟨s, false, value⟩, spelling)

/-- A digit of any script. -/
def isDigit (c : Char) : Bool := (Text.digitValue? c).isSome

/-- The text is a number with a minus; a line feed may follow it. -/
def isNegativeNumber (t : Text) : Bool :=
  let t := if t.endsWith ['\n'] then t.dropLast else t
  match t with
  | '-' :: t =>
    let behind := t.dropWhile isDigit
    match behind with
    | [] => !t.isEmpty
    | '.' :: places => !places.isEmpty && places.all isDigit
    | _ => false
  | _ => false

/-- What an argument is that starts with a hyphen and more, and is no spelling of a switch. -/
def Word.ofHyphenated (switches : List Switch) (t : Text) : Except Misuse Word :=
  match meanings switches t with
  -- no switch is spelled like a number, so a number with a minus is a value
  | [] => .ok (if isNegativeNumber t || t.contains [' '] then .plain t else .unknown t)
  | [(written, _)] => .ok (.switch written)
  | several => .error (.ambiguous t (several.map Prod.snd))

/-- What an argument is. -/
def Word.ofArgument (switches : List Switch) (t : Text) : Except Misuse Word :=
  if t.head? ≠ some '-' then .ok (.plain t) else
  match switchOf? switches t with
  | some s => .ok (.switch ⟨s, isShort t, none⟩)
  | none =>
    if t.length = 1 then .ok (.plain t) else
    match cutAtEquals t with
    | (front, some value) =>
      match switchOf? switches front with
      | some s => .ok (.switch ⟨s, isShort front, some value⟩)
      | none => Word.ofHyphenated switches t
    | (_, none) => Word.ofHyphenated switches t

/-- What arguments are. Behind two hyphens they are values. -/
def Word.ofArguments (switches : List Switch) : List Text → Except Misuse (List Word)
  | [] => .ok []
  | t :: ts =>
    if t = markText then .ok (.mark :: ts.map .plain) else do
      let word ← Word.ofArgument switches t
      return word :: (← Word.ofArguments switches ts)

end ComponentBook.CommandLine
