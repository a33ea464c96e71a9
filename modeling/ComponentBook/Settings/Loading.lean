import ComponentBook.Disk.Basic
import ComponentBook.Failure
import ComponentBook.Number.Shortest
import ComponentBook.Text.Blank
import ComponentBook.Yaml.Document

/-! # Loading settings

The settings of a project are a mapping in a file of its directory. What the file does not say, or
says in a way that does not fit, is as in the settings of a project that says nothing; only an
unknown language and an unknown way to combine properties are errors. **`Settings.ofDocument`** reads
settings from a document, **`loadSettings`** from a disk. -/

namespace ComponentBook

open Yaml (Value Document)

/-- The most digits with which a whole number is written. -/
def writtenDigitLimit : Nat := Number.digitLimit

/-- The text that a setting gives: a text, or a number as it is written. -/
def textSetting : Option Value → Except Failure (Option Text)
  | some (.text t) => .ok (some t)
  | some (.integer n) =>
    let t := Text.signedDecimal n
    if writtenDigitLimit < (Text.decimal n.natAbs).length then
      .error (.value (.tooLongToWrite writtenDigitLimit))
    else .ok (some t)
  | some (.decimal x) => .ok (some x.text)
  | _ => .ok none

/-- The text that a setting gives, when it is not empty. -/
def filledSetting (v : Option Value) : Except Failure (Option Text) := do
  return (← textSetting v).filter (!·.isEmpty)

/-- The number that a setting gives. -/
def numberSetting : Option Value → Except Failure (Option Double)
  | some (.integer n) =>
    match Double.ofInt? n with
    | some x => .ok (some x)
    | none => .error (.value .tooLarge)
  | some (.decimal x) => .ok (some x)
  | some (.text t) => .ok (Number.readDouble? t)
  | _ => .ok none

/-- The whole number that a setting gives. -/
def integerSetting : Option Value → Option Int
  | some (.integer n) => some n
  | some (.text t) => Number.readDecimal? t
  | _ => none

/-- The truth value that a setting gives. -/
def booleanSetting : Option Value → Option Bool
  | some (.boolean b) => some b
  | some (.text t) =>
    let word := t.strip.lower
    if ["true", "yes", "1"].any (·.toList = word) then some true
    else if ["false", "no", "0"].any (·.toList = word) then some false
    else none
  | _ => none

/-- The language that a setting gives. -/
def localeSetting (v : Option Value) : Except Failure (Option Locale) := do
  match ← filledSetting v with
  | none => return none
  | some t =>
    let code := t.lower
    match Locale.all.find? fun l => l.code = code with
    | some locale => return some locale
    | none => throw (.settings (.unknownLocale code))

/-- The way to combine properties that a setting gives. -/
def mergeSetting (v : Option Value) : Except Failure (Option MergePolicy) := do
  match ← filledSetting v with
  | none => return none
  | some t =>
    match MergePolicy.ofCode? t.lower with
    | some policy => return some policy
    | none => throw (.settings (.unknownMerge t.lower))

/-- The settings of a project in a directory, as the outermost mapping of a document gives them. -/
def Settings.ofMapping (root : Path) (d : Document) : Except Failure Settings := do
  let standard := Settings.standard root
  let member (key : String) : Option Value := d.get? d.top key.toList
  let within (group key : String) : Option Value :=
    (member group).bind fun g => d.get? g key.toList
  let components ← filledSetting (member "components_dir")
  let pages ← filledSetting (member "output_dir")
  let extension ← filledSetting (member "extension")
  let indexName ← filledSetting (member "index_file")
  let templates ← filledSetting (member "templates_dir")
  let locale ← localeSetting (member "locale")
  let merge ← mergeSetting (within "props" "merge")
  let interval ← numberSetting (within "watch" "interval")
  let host ← filledSetting (within "service" "host")
  return {
    root := root
    componentsDirectory := (components.map root.child).getD standard.componentsDirectory
    pagesDirectory := (pages.map root.child).getD standard.pagesDirectory
    templatesDirectory := templates.map root.child
    extension := dottedExtension (extension.getD standard.extension)
    indexName := indexName.getD standard.indexName
    locale := locale.getD standard.locale
    mergePolicy := merge.getD standard.mergePolicy
    interval := (interval.filter Double.isPositive).getD standard.interval
    host := host.getD standard.host
    port := (integerSetting (within "service" "port")).getD standard.port
    stagePages := (booleanSetting (within "git" "stage_docs")).getD standard.stagePages }

/-- The settings of a project in a directory, as a document gives them. A value that counts as nothing
gives none. -/
def Settings.ofDocument (root : Path) (d : Document) : Except Failure Settings :=
  if d.isVoid d.top then .ok (Settings.standard root) else
  match d.collection? d.top with
  | some (.mapping _) => Settings.ofMapping root d
  | _ => .error (.settings .notAMapping)

/-- The settings of a project in a directory, as a text gives them. -/
def Settings.ofText (root : Path) (t : Text) : Except Failure Settings :=
  if t.allBlank then .ok (Settings.standard root) else
  match Document.ofText t with
  | .ok d => Settings.ofDocument root d
  | .error .malformed => .error (.settings .unreadable)
  | .error (.fault f) => .error (.value f)

/-- A path that starts with a tilde leads from the home directory of the user named behind it. -/
def fromHome (d : Disk) (p : Path) : Except Disk.Failure Path :=
  match p.slashes, p.names with
  | 0, ('~' :: user) :: names =>
    if user.contains '\x00' then .error .nulInPath else
    match d.homes.lookup user with
    | some home => .ok (home.join { names })
    | none => .error .noHome
  | _, _ => .ok p

/-- The file with the settings for a path: the one in the directory that the path leads to, else the
one beside the path. -/
def settingsFile (d : Disk) (p : Path) : Except Disk.Failure Path := do
  let p ← fromHome d p
  let here : Path := { slashes := 1, names := d.workingDirectory }
  let file :=
    if ← d.isDirectory p then p.child settingsName
    else if p.name ≠ settingsName then p.parent.child settingsName
    else p
  if Disk.hasNul file then throw .nulInPath
  return Path.resolved here file

/-- The settings for a path. -/
def loadSettings (d : Disk) (p : Path) : Except Failure Settings := do
  let file ← (settingsFile d p).mapError .disk
  if ← (d.exists? file).mapError Failure.disk then
    Settings.ofText file.parent (← (d.read file).mapError .disk)
  else return Settings.standard file.parent

end ComponentBook
