import ComponentBook.Disk.Path
import ComponentBook.Locale
import ComponentBook.Number.Double
import ComponentBook.Property.Basic

/-! # Settings

The **`Settings`** of a project say where its components and pages are, how pages are written, and
how the program watches and serves. Every directory is given by an absolute path. -/

namespace ComponentBook

/-- The settings of a project. -/
structure Settings where
  /-- The directory of the project. -/
  root : Path
  /-- The directory of the component sources. -/
  componentsDirectory : Path
  /-- The directory of the pages. -/
  pagesDirectory : Path
  /-- The directory of the project's own index template. -/
  templatesDirectory : Option Path
  /-- How the names of component sources end. -/
  extension : Text
  /-- The name of the index file. -/
  indexName : Text
  /-- The language of the pages. -/
  locale : Locale
  /-- How the properties found in several ways become one list. -/
  mergePolicy : MergePolicy
  /-- The seconds between two looks at the sources. -/
  interval : Double
  /-- The address of the service. -/
  host : Text
  /-- The port of the service. -/
  port : Int
  /-- Whether written pages are staged. -/
  stagePages : Bool

/-- An extension with a dot in front. -/
def dottedExtension (extension : Text) : Text :=
  if extension.startsWith ['.'] then extension else '.' :: extension

/-- The settings of a project that says nothing. -/
def Settings.standard (root : Path) : Settings where
  root := root
  componentsDirectory := root.child "src/components".toList
  pagesDirectory := root.child "docs/components".toList
  templatesDirectory := none
  extension := ".vue".toList
  indexName := "index.md".toList
  locale := Locale.english
  mergePolicy := .dedupe
  interval := .ofDecimal false 1 0
  host := "127.0.0.1".toList
  port := 3333
  stagePages := false

/-- Why settings cannot be used. -/
inductive SettingsError where
  /-- The file is not written as settings are. -/
  | unreadable
  /-- The file holds something else than named settings. -/
  | notAMapping
  /-- There is no such language. -/
  | unknownLocale (code : Text)
  /-- There is no such way to combine properties. -/
  | unknownMerge (code : Text)
  deriving DecidableEq, Repr

/-- The name of the file with the settings of a project. -/
def settingsName : Text := ".compdoc.yml".toList

/-- The words of a choice, as a message lists them. -/
def choiceOf (words : List Text) : Text :=
  " (expected one of ".toList ++ Text.join ", ".toList words ++ [')']

/-- The text of an error. -/
def SettingsError.message : SettingsError → Text
  | .unreadable => "Failed to parse ".toList ++ settingsName
  | .notAMapping => settingsName ++ " must contain a mapping at the root".toList
  | .unknownLocale code =>
    "Unsupported locale '".toList ++ code ++ ['\''] ++ choiceOf (Locale.all.map (·.code))
  | .unknownMerge code =>
    "Unsupported props.merge '".toList ++ code ++ ['\''] ++ choiceOf (MergePolicy.all.map (·.code))

end ComponentBook
