import TypeSchema.Document.Discovery
import TypeSchema.FileTree
import TypeSchema.JsonSource
import TypeSchema.Lint.Finding

/-!
# Linting files

A file, or every file of a directory whose name ends in `.json`, is resolved on its own, and what is
found is counted.
-/

namespace TypeSchema.Lint

/-- What has been found in a file, which is named relative to the place that was linted. -/
structure FileReport where
  file : Path
  diagnostics : List Diagnostic

/-- What has been found at a place. -/
structure Report where
  path : Path
  /-- Warnings make a file fail, too. -/
  strict : Bool
  files : List FileReport

/-- How many of the diagnostics have a severity. -/
def countOf (s : Severity) (ds : List Diagnostic) : Nat :=
  ds.countP fun d => d.finding.severity = s

namespace FileReport

/-- The most that any finding of the file matters. -/
def status (r : FileReport) : Option Severity :=
  if 0 < countOf .error r.diagnostics then some .error
  else if 0 < countOf .warning r.diagnostics then some .warning
  else none

/-- The word for what became of a file. -/
def statusWord (r : FileReport) : String :=
  match r.status with
  | none => "ok"
  | some s => s.word

/-- The file does not pass. -/
def isFailed (strict : Bool) (r : FileReport) : Bool :=
  match r.status with
  | none => false
  | some .warning => strict
  | some .error => true

end FileReport

namespace Report

/-- How many files do not pass. -/
def failed (r : Report) : Nat := r.files.countP (·.isFailed r.strict)

/-- How many files pass. -/
def passed (r : Report) : Nat := r.files.length - r.failed

/-- How many findings have a severity. -/
def total (s : Severity) (r : Report) : Nat :=
  r.files.foldr (fun f n => countOf s f.diagnostics + n) 0

/-- There are no errors. -/
def isOk (r : Report) : Bool := r.total .error == 0

end Report

/-- What is found in a source of a file tree. -/
def diagnoseFile (tree : FileTree) (file : Path) : List Diagnostic :=
  match Document.resolve (.ofFiles tree) JsonSource.frontEnd .lenient file with
  | .ok doc => diagnose doc file
  | .error e => [⟨.unresolvable e, file, "/"⟩]

/-- The sources at a place, each with the names that lead to it from there. -/
def sourcesAt (tree : FileTree) (path : Path) : List (Path × List String) :=
  if tree.isFile path then
    if path.hasExtension "json" then [(path, [])] else []
  else
    (tree.filesBelow path).filterMap fun names =>
      let file := names.foldl (fun p name => p.join ⟨name⟩) path
      if file.hasExtension "json" then some (file, names) else none

/-- Lint a file, or the files of a directory. -/
def lint (tree : FileTree) (path : Path) (strict : Bool) : Report where
  path := path
  strict := strict
  files := (sourcesAt tree path).map fun (file, names) =>
    ⟨⟨"/".intercalate names⟩, diagnoseFile tree file⟩

end TypeSchema.Lint
