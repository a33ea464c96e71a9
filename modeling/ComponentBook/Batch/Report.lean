import ComponentBook.Disk.Path

/-! # Reports

A run over sources ends with a **`BatchReport`**: one **`FileReport`** for each source, and what became
of the index. **`BatchReport.summary`** tells a report in lines. -/

namespace ComponentBook

/-- What became of one source. -/
structure FileReport where
  /-- The source. -/
  path : Text
  /-- A page was written. -/
  success : Bool
  /-- The name of the component. -/
  component : Option Text := none
  /-- The file of the page. -/
  pagePath : Option Path := none
  /-- What happened. -/
  message : Text := []
  /-- Why no page was written. -/
  error : Option Text := none
  deriving DecidableEq, Repr

/-- What became of a run. -/
structure BatchReport where
  /-- Everything that was to be done has been done. -/
  success : Bool
  /-- The sources in the order of the run. -/
  results : List FileReport := []
  /-- What happened. -/
  message : Text := []
  /-- The file of the index. -/
  indexPath : Option Path := none
  /-- Why no index was written. -/
  indexError : Option Text := none
  deriving DecidableEq, Repr

/-- The sources of which no page was written. -/
def BatchReport.failed (r : BatchReport) : List FileReport := r.results.filter (!·.success)

/-- What a line about a source adds to its path: where its page is, else its error. -/
def FileReport.detail (r : FileReport) : Text :=
  match r.success, r.pagePath with
  | true, some p => p.text
  | _, _ => r.error.getD []

/-- The line about a source. -/
def FileReport.line (r : FileReport) : Text :=
  "  [".toList ++ (if r.success then "ok".toList else "FAILED".toList) ++ "] ".toList ++ r.path ++
    if r.detail.isEmpty then [] else " -> ".toList ++ r.detail

/-- The line about the index, if there is something to say. -/
def BatchReport.indexLines (r : BatchReport) : List Text :=
  let error := r.indexError.getD []
  if !error.isEmpty then ["  [FAILED] index: ".toList ++ error]
  else match r.indexPath with
    | some p => ["  [ok] index -> ".toList ++ p.text]
    | none => []

/-- The lines that tell a report. -/
def BatchReport.summary (r : BatchReport) : List Text :=
  [r.message] ++ r.results.map FileReport.line ++ r.indexLines ++
    [if r.success then "success".toList else "failed".toList]

end ComponentBook
