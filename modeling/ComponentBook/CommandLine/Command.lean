import ComponentBook.CommandLine.Word
import ComponentBook.Number.Reading

/-! # Commands

A **`Command`** is what the arguments of the program ask for: a job, the name of a component if the
job is about one, and what the switches say (**`Options`**). **`Command.read`** reads arguments. The
switches in front of the job are read with the arguments up to its word, those behind it with the
rest. -/

namespace ComponentBook.CommandLine

/-- What switches say. -/
structure Options where
  verbose : Bool := false
  /-- The directory of the project, unless it is withheld. -/
  root : Option Text := some ['.']
  /-- The file for the log, when one is asked for; it may be withheld even then. -/
  logFile : Option (Option Text) := none
  noStage : Bool := false
  interval : Option Double := none
  host : Option Text := none
  port : Option Int := none
  deriving DecidableEq, Repr

/-- A job, and what there is to say about it. -/
structure Command where
  job : Job
  /-- The name of the component that the job is about. -/
  name : Text := []
  options : Options := {}
  deriving DecidableEq, Repr

/-- The number that the value of a switch is, unless it is withheld. -/
def numberOf {α : Type} (read? : Text → Option α) (fault : Text → Misuse) :
    Option Text → Except Misuse (Option α)
  | none => .ok none
  | some t =>
    match read? t with
    | some n => .ok (some n)
    | none => .error (fault t)

/-- The value that a text gives to a switch. Two hyphens withhold it. -/
def valueOf (t : Text) : Option Text := if t = markText then none else some t

/-- What switches say after one more switch with the text of its value. -/
def Options.set (o : Options) (s : Switch) (t : Text) : Except Misuse Options :=
  let value := valueOf t
  match s with
  | .help => .ok o
  | .verbose => .ok { o with verbose := true }
  | .noStage => .ok { o with noStage := true }
  | .root => .ok { o with root := value }
  | .logFile => .ok { o with logFile := some value }
  | .host => .ok { o with host := value }
  | .interval => (numberOf Number.readDouble? (.notANumber s) value).map fun interval =>
      { o with interval }
  | .port => (numberOf Number.readDecimal? (.notAWholeNumber s) value).map fun port =>
      { o with port }

/-- The switches that one argument stands for, each with its value if it is part of the argument. -/
abbrev Expansion := List (Switch × Option Text)

/-- What a short spelling of `s` with something attached stands for. If the switch takes no value, the
first character attached to it is a switch with a short spelling, to which the others are attached. -/
def expandShort (switches : List Switch) (s : Switch) : Text → Except Misuse Expansion
  | [] => if s.takesValue then .ok [(s, some [])] else .error (.needlessValue s [])
  | c :: t =>
    if s.takesValue then .ok [(s, some (c :: t))] else
    match switchOf? switches ['-', c] with
    | none => .error (.needlessValue s (c :: t))
    | some next =>
      if t.isEmpty then .ok [(s, none), (next, none)]
      else (expandShort switches next t).map ((s, none) :: ·)

/-- What an argument with a switch stands for. -/
def expand (switches : List Switch) (written : WrittenSwitch) : Except Misuse Expansion :=
  let s := written.switch
  match written.attached with
  | none => .ok [(s, none)]
  | some t =>
    if written.short then expandShort switches s t
    else if s.takesValue then .ok [(s, some t)]
    else .error (.needlessValue s t)

/-- A place on the command line where switches can stand. -/
structure Level where
  /-- The words by which the program has been called up to here. -/
  program : Text
  /-- The switches that can stand here. -/
  switches : List Switch

namespace Level

/-- The words that arguments are at a level. -/
def words (l : Level) (arguments : List Text) : Except Stop (List Word) :=
  (Word.ofArguments l.switches arguments).mapError (.misuse l.program)

/-- What switches say after the switches of one argument. The value of the last one may be the next
argument; whether it is comes with the result. -/
def setAll (l : Level) (o : Options) (next : Option Text) :
    Expansion → Except Stop (Options × Bool)
  | [] => .ok (o, false)
  | (s, value) :: rest =>
    if s = .help then .error (.help l.program l.switches) else
    match s.takesValue, value, next with
    | true, none, none => .error (.misuse l.program (.lacksValue s))
    -- only the last switch of an argument is left to take the next one as its value
    | true, none, some value =>
      match o.set s value with
      | .ok o => .ok (o, true)
      | .error cause => .error (.misuse l.program cause)
    | _, value, next =>
      match o.set s (value.getD []) with
      | .ok o => l.setAll o next rest
      | .error cause => .error (.misuse l.program cause)

end Level

/-- What has been read. -/
structure Progress where
  options : Options := {}
  name : Option Text := none
  /-- The arguments without meaning. -/
  leftOver : List Text := []

/-- One more argument without meaning. -/
def Progress.leave (p : Progress) (t : Text) : Progress := { p with leftOver := p.leftOver ++ [t] }

/-- One more argument with a switch read. Whether the next argument is its value comes with the
result. -/
def Progress.switch (p : Progress) (l : Level) (written : WrittenSwitch) (next : Option Text) :
    Except Stop (Progress × Bool) :=
  match expand l.switches written with
  | .error cause => .error (.misuse l.program cause)
  | .ok expansion =>
    (l.setAll p.options next expansion).map fun (options, taken) => ({ p with options }, taken)

/-- The level in front of a job. -/
def commonLevel : Level := { program, switches := commonSwitches }

/-- The level behind the word of a job. -/
def Job.level (j : Job) : Level := { program := j.program, switches := j.switches }

/-- The words behind the word of a job read. -/
def readJob (j : Job) (p : Progress) : List Word → Except Stop Progress
  | [] => .ok p
  | .unknown t :: ws => readJob j (p.leave t) ws
  | .switch written :: .plain next :: ws =>
    match p.switch j.level written (some next) with
    | .error stop => .error stop
    | .ok (p, true) => readJob j p ws
    | .ok (p, false) => readJob j p (.plain next :: ws)
  | .switch written :: ws =>
    match p.switch j.level written none with
    | .error stop => .error stop
    | .ok (p, _) => readJob j p ws
  -- the mark is taken away together with the name behind or in front of it, else it is left over
  | .mark :: .plain t :: ws =>
    if j.takesName && p.name.isNone then readJob j { p with name := some t } ws
    else readJob j (p.leave markText) (.plain t :: ws)
  | .mark :: ws => readJob j (p.leave markText) ws
  | .plain t :: .mark :: ws =>
    if j.takesName && p.name.isNone then readJob j { p with name := some t } ws
    else readJob j (p.leave t) (.mark :: ws)
  | .plain t :: ws =>
    if j.takesName && p.name.isNone then readJob j { p with name := some t } ws
    else readJob j (p.leave t) ws
termination_by ws => ws.length

/-- The command for a job, with the arguments behind its word. -/
def Command.ofJob (j : Job) (p : Progress) (arguments : List Text) : Except Stop Command := do
  let p ← readJob j p (← j.level.words arguments)
  if j.takesName && p.name.isNone then
    throw (.misuse j.level.program (.missing "name".toList))
  if !p.leftOver.isEmpty then throw (.misuse program (.leftOver p.leftOver))
  return { job := j, name := p.name.getD [], options := p.options }

/-- The command that words and the arguments that they are ask for. -/
def readCommon (p : Progress) : List (Word × Text) → Except Stop Command
  | [] | [(.mark, _)] => .error (.misuse program (.missing "command".toList))
  | (.unknown t, _) :: ws => readCommon (p.leave t) ws
  | (.mark, t) :: _ => .error (.misuse program (.unknownJob t))
  | (.plain t, _) :: ws =>
    match Job.ofWord? t with
    | some j => Command.ofJob j p (ws.map Prod.snd)
    | none => .error (.misuse program (.unknownJob t))
  | (.switch written, _) :: (.plain next, t) :: ws =>
    match p.switch commonLevel written (some next) with
    | .error stop => .error stop
    | .ok (p, true) => readCommon p ws
    | .ok (p, false) => readCommon p ((.plain next, t) :: ws)
  | (.switch written, _) :: ws =>
    match p.switch commonLevel written none with
    | .error stop => .error stop
    | .ok (p, _) => readCommon p ws
termination_by ws => ws.length

/-- The command that arguments ask for. -/
def Command.read (arguments : List Text) : Except Stop Command := do
  readCommon {} ((← commonLevel.words arguments).zip arguments)

end ComponentBook.CommandLine
