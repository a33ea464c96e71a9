import ComponentBook.Batch.Report
import ComponentBook.Component.Basic
import ComponentBook.Component.Usage
import ComponentBook.Markdown.Page
import ComponentBook.Plan.Basic

/-! # Runs over sources

A run documents each of its sources and then rebuilds the index once (**`Batch.run`**). A source that
cannot be documented is reported and stops nothing; pages are staged only when everything succeeded. A
failure of git is reported too, while a repository that cannot be looked for ends the run without a report.
The sources of a run are all of a project (**`Batch.all`**), the one of a component
(**`Batch.component`**), or those staged for the next commit (**`Batch.staged`**). -/

namespace ComponentBook.Batch

/-- The language in which examples are written. -/
def codeLanguage : Text := "vue".toList

/-- The part of the program that tells about runs. -/
def part : String := "pipeline"

/-- What a source says about its component, with an example of its use. -/
def describe (s : Settings) (source fallback : Text) : Component :=
  let c := Component.ofSource s.mergePolicy s.locale.templatePlaceholder source fallback
  -- an example of the author goes before one that is built
  if c.usageIsGiven then c
  else { c with usage := usageExample s.locale c.name c.properties c.hasSlot }

/-- The component of a source and its page, which keeps the description of the page that is there. -/
def document (s : Settings) (source fallback : Text) : ExceptT Failure Plan (Component × Text) := do
  let c := describe s source fallback
  let page ← ExceptT.mk (Plan.request (.readPage c.name))
  let existing := page.bind Markdown.description?
  if existing.any (!·.isEmpty) then
    Plan.tell .debug part ("Keeping existing description for ".toList ++ c.name)
  return (c, Markdown.page s.locale codeLanguage existing c)

/-- The name of the component of a source whose page has been written, and the file of the page. -/
def writePage (s : Settings) (path : Path) : ExceptT Failure Plan (Text × Option Path) := do
  let source ← ExceptT.mk (Plan.request (.readSource path))
  let (c, page) ← document s source path.stem
  let saved ← ExceptT.mk (Plan.request (.savePage c.name page))
  return (c.name, saved)

/-- One source documented, or the failure reported. -/
def documentFile (s : Settings) (path : Path) : Plan FileReport := do
  Plan.tell .info part ("Processing ".toList ++ path.text)
  match ← (writePage s path).run with
  -- the failure goes no further: the sources behind this one are documented all the same
  | .error e =>
    let message := "Failed to document ".toList ++ path.text
    Plan.tell .error part (message ++ ": ".toList ++ e.message)
    return { path := path.text, success := false, message, error := some e.message }
  | .ok (name, saved) =>
    let target := (saved.map Path.text).getD name
    Plan.tell .info part
      ("Generated documentation for ".toList ++ name ++ " at ".toList ++ target)
    return { path := path.text, success := true, component := some name, pagePath := saved
             message := "Documentation generated: ".toList ++ target }

/-- The pages of names, each with its name. -/
def readPages : List Text → ExceptT Failure Plan (List (Text × Text))
  | [] => return []
  | name :: names => do
    let page ← ExceptT.mk (Plan.request (.readPage name))
    return (name, page.getD []) :: (← readPages names)

/-- The index of all pages written anew. -/
def writeIndex (s : Settings) : ExceptT Failure Plan (Option Path) := do
  let names ← ExceptT.mk (Plan.request .pageNames)
  let pages ← readPages names
  let template ← ExceptT.mk (Plan.request .indexTemplate)
  match indexPage s.locale categoryRules template pages with
  | .error e => throw (.index e)
  | .ok index => ExceptT.mk (Plan.request (.saveIndex index))

/-- The index rebuilt: its file, or the failure in words. -/
def rebuildIndex (s : Settings) : Plan (Option Path × Option Text) := do
  match ← (writeIndex s).run with
  | .error e =>
    Plan.tell .error part ("Failed to build component index: ".toList ++ e.message)
    return (none, some e.message)
  | .ok path =>
    Plan.tell .info part ("Component index regenerated".toList ++
      (path.map fun p => " at ".toList ++ p.text).getD [])
    return (path, none)

/-- Files staged in the repository of a directory, if it is one: whether they were, or the failure of
git. -/
def stage (root : Path) (files : List Path) : ExceptT Failure Plan (Except Git.Failure Bool) := do
  -- a look that fails is no failure of git
  if !(← ExceptT.mk (Plan.request (.isRepository root))) then
    Plan.tell .debug "git"
      ("Skipping staging; ".toList ++ root.text ++ " is not a Git repository".toList)
    return .ok false
  let here ← Plan.request .workingDirectory
  -- without files there is nothing to call git for
  if files.isEmpty then return .ok false
  let command := Git.addFiles (files.map (Git.nameInRepository here root))
  match ← Plan.request (.git root command) with
  | .error cause => return .error { command, cause }
  | .ok _ =>
    Plan.tell .info "git" ("Staged ".toList ++ Text.decimal files.length ++
      " documentation file(s)".toList)
    return .ok true

/-- The answer to the question which files are staged. -/
def listStaged (root : Path) : Plan (Except Git.Failure Text) := do
  match ← Plan.request (.git root Git.listStaged) with
  | .error cause => return .error { command := Git.listStaged, cause }
  | .ok listing => return .ok listing

/-- The staged component sources of a directory in a repository. -/
def stagedSources (root directory : Path) (extension : Text) :
    Plan (Except Git.Failure (List Path)) := do
  match ← listStaged root with
  | .error e => return .error e
  | .ok listing =>
    let here ← Plan.request .workingDirectory
    return .ok (Git.stagedSources here root directory extension listing)

/-- The files written by a run: the pages in the order of the sources, then the index. -/
def writtenFiles (results : List FileReport) (indexPath : Option Path) : List Path :=
  results.filterMap (·.pagePath) ++ indexPath.toList

/-- The sources documented one after another, and the index rebuilt. Whether pages are staged is said
by `staging`, else by the settings. -/
def run (s : Settings) (paths : List Path) (staging : Option Bool) :
    ExceptT Failure Plan BatchReport := do
  let results ← Plan.forEach (documentFile s) paths
  let (indexPath, indexError) ← rebuildIndex s
  let message := "Processed ".toList ++ Text.decimal results.length ++
    " component file(s)".toList ++
    if indexError.any (!·.isEmpty) then "; index build failed".toList else []
  -- nothing is staged unless everything has been written
  let written := results.all (·.success) && indexError.isNone
  let staged ←
    if written && staging.getD s.stagePages then stage s.root (writtenFiles results indexPath)
    else pure (.ok false)
  let (success, message) ← match staged with
    | .ok _ => pure (written, message)
    | .error e => do
      Plan.tell .error part ("Failed to stage documentation: ".toList ++ e.message)
      pure (false, message ++ "; staging failed".toList)
  if !success then Plan.tell .warning part (message ++ " with failures".toList)
  return { success, results, message, indexPath, indexError }

/-- All component sources of a project. -/
def all (s : Settings) (staging : Option Bool) : ExceptT Failure Plan BatchReport := do
  let files ← ExceptT.mk (Plan.request (.sources s.componentsDirectory s.extension))
  Plan.tell .info part
    ("Found ".toList ++ Text.decimal files.length ++ " component file(s)".toList)
  run s files staging

/-- The component whose name is no text: the sources are looked through in vain. -/
def unnameable (s : Settings) : ExceptT Failure Plan BatchReport := do
  let _ ← ExceptT.mk (Plan.request (.sources s.componentsDirectory s.extension))
  throw (.noComponent [] s.componentsDirectory.text)

/-- The source of the component with a name. -/
def component (s : Settings) (name : Text) (staging : Option Bool) :
    ExceptT Failure Plan BatchReport := do
  match ← ExceptT.mk (Plan.request (.findSource s.componentsDirectory name s.extension)) with
  | none => throw (.noComponent name s.componentsDirectory.text)
  | some path => run s [path] staging

/-- Those of some paths that lead to files. -/
def presentFiles : List Path → ExceptT Failure Plan (List Path)
  | [] => return []
  | path :: paths => do
    let present ← ExceptT.mk (Plan.request (.isFile path))
    let rest ← presentFiles paths
    return if present then path :: rest else rest

/-- The component sources staged for the next commit that still exist. -/
def staged (s : Settings) (staging : Option Bool) : ExceptT Failure Plan BatchReport := do
  let candidates ← match ← stagedSources s.root s.componentsDirectory s.extension with
    | .error e => throw (.git e)
    | .ok candidates => pure candidates
  let files ← presentFiles candidates
  if files.length ≠ candidates.length then
    Plan.tell .debug part ("Skipping ".toList ++
      Text.decimal (candidates.length - files.length) ++
      " staged path(s) that no longer exist".toList)
  Plan.tell .info part
    (if files.isEmpty then "No staged component files; refreshing index only".toList
    else "Detected ".toList ++ Text.decimal files.length ++
      " staged component file(s)".toList)
  run s files staging

end ComponentBook.Batch
