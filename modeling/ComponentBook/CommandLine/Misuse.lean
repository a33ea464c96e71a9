import ComponentBook.CommandLine.Switch
import ComponentBook.Text.Quoted

/-! # Misuse of the command line

**`Misuse`** names the ways in which the program can be called wrongly, and **`Misuse.message`** gives the
wording of each. Arguments can also ask for help; either way nothing else is done (**`Stop`**). -/

namespace ComponentBook.CommandLine

/-- What is wrong with arguments. -/
inductive Misuse where
  /-- An argument is the start of several spellings. -/
  | ambiguous (argument : Text) (spellings : List Text)
  /-- A switch is given without the value that it takes. -/
  | lacksValue (s : Switch)
  /-- A switch that takes no value is given one. -/
  | needlessValue (s : Switch) (value : Text)
  /-- The value of a switch is no number. -/
  | notANumber (s : Switch) (value : Text)
  /-- The value of a switch is no whole number. -/
  | notAWholeNumber (s : Switch) (value : Text)
  /-- There is no such job. -/
  | unknownJob (word : Text)
  /-- Something that is needed is not given. -/
  | missing (what : Text)
  /-- Some arguments have no meaning. -/
  | leftOver (arguments : List Text)
  deriving DecidableEq, Repr

/-- Words as a message lists them. -/
def listed (words : List Text) : Text := Text.join ", ".toList words

/-- A message about a switch. -/
def aboutSwitch (s : Switch) (message : Text) : Text :=
  "argument ".toList ++ s.label ++ ": ".toList ++ message

/-- The text of a misuse. -/
def Misuse.message : Misuse → Text
  | .ambiguous argument spellings =>
    "ambiguous option: ".toList ++ argument ++ " could match ".toList ++ listed spellings
  | .lacksValue s => aboutSwitch s "expected one argument".toList
  | .needlessValue s value => aboutSwitch s ("ignored explicit argument ".toList ++ value.quoted)
  | .notANumber s value => aboutSwitch s ("invalid float value: ".toList ++ value.quoted)
  | .notAWholeNumber s value => aboutSwitch s ("invalid int value: ".toList ++ value.quoted)
  | .unknownJob word =>
    "argument command: invalid choice: ".toList ++ word.quoted ++ " (choose from ".toList ++
      listed (jobs.map fun j => j.word.quoted) ++ [')']
  | .missing what => "the following arguments are required: ".toList ++ what
  | .leftOver arguments => "unrecognized arguments: ".toList ++ Text.join [' '] arguments

/-- Why arguments are not read to their end. -/
inductive Stop where
  /-- They ask for help on the program, or on one of its jobs. -/
  | help (program : Text) (switches : List Switch)
  /-- They are wrong. -/
  | misuse (program : Text) (cause : Misuse)
  deriving DecidableEq, Repr

/-- What is shown on a stop. -/
def Stop.text : Stop → Text
  | .help program switches =>
    "usage: ".toList ++ program ++
      switches.flatMap (fun s => " [".toList ++ s.label ++ "]".toList) ++ ['\n']
  | .misuse program cause => program ++ ": error: ".toList ++ cause.message ++ ['\n']

end ComponentBook.CommandLine
