import ThemeMotion.Settings.Basic
import ThemeMotion.Theme.Registry

/-!
# Loading themes

All theme paths of the settings are loaded into a new registry, files and directories
alike, in the order of the settings. Unless failures are to stop the loading, a file
that fails is reported and left out. Only a directory that cannot be listed stops the
loading in either case.
-/

namespace ThemeMotion

open Trace (Noted)

/-- What became of the theme files, each list in the order of loading. -/
structure LoadReport where
  loaded : List String
  /-- The files that were left out, with the reason. -/
  failed : List (String × LoadError)
deriving DecidableEq, Repr

namespace LoadReport

/-- Nothing was loaded. -/
def empty : LoadReport := ⟨[], []⟩

/-- Takes in the outcome for a directory. -/
def add (report : LoadReport) (load : DirectoryLoad) : LoadReport :=
  ⟨report.loaded ++ load.loaded.map Prod.fst, report.failed ++ load.failed⟩

end LoadReport

/-- Why the loading stopped. -/
inductive LoadFailure where
  | file (path : String) (cause : LoadError)
  | directory (path : String) (cause : LoadError)
deriving DecidableEq, Repr

namespace LoadFailure

/-- The error behind a failure. -/
def cause : LoadFailure → LoadError
  | .file _ error => error
  | .directory _ error => error

/-- What could not be loaded. -/
def context : LoadFailure → String
  | .file path _ => s!"failed to load theme file {path}"
  | .directory path _ => s!"failed to load theme directory {path}"

end LoadFailure

/-- The wordings of an error and of what lies behind it. The fault of a file is worded
with the error and once more by itself. -/
def LoadError.chain : LoadError → List String
  | .unreadable path fault => [(LoadError.unreadable path fault).message, fault.message]
  | .malformed document => [document.message]

/-- The wording of a failure with all that lies behind it. -/
def LoadFailure.message (failure : LoadFailure) : String :=
  ": ".intercalate (failure.context :: failure.cause.chain)

/-- A registry that is being filled, and the report so far. -/
abbrev Loading := Registry × LoadReport

namespace Settings

/-- Loads a directory. -/
def loadDirectory (settings : Settings) (files : FileSource) (loading : Loading)
    (path : String) : Noted (Except LoadFailure Loading) := do
  let (outcome, next) ← loading.1.addDirectory files path settings.extension
  match outcome with
  | .error error => return .error (.directory path error)
  | .ok load =>
    match settings.failFast, load.failed with
    | true, (file, error) :: _ => return .error (.file file error)
    | _, _ => return .ok (next, loading.2.add load)

/-- Loads a file. -/
def loadFile (settings : Settings) (files : FileSource) (loading : Loading)
    (path : String) : Noted (Except LoadFailure Loading) := do
  let (outcome, next) ← loading.1.addFile files path
  match outcome with
  | .ok count => return .ok (next, loading.2.add ⟨[(path, count)], []⟩)
  | .error error =>
    if settings.failFast then return .error (.file path error)
    else
      Registry.reportSkipped path error
      return .ok (next, loading.2.add ⟨[], [(path, error)]⟩)

/-- Loads what lies at a path. -/
def loadPath (settings : Settings) (files : FileSource) (loading : Loading)
    (path : String) : Noted (Except LoadFailure Loading) :=
  if files.isDirectory path then settings.loadDirectory files loading path
  else settings.loadFile files loading path

/-- Loads what lies at paths, until a failure. -/
def loadPaths (settings : Settings) (files : FileSource) (loading : Loading) :
    List String → Noted (Except LoadFailure Loading)
  | [] => pure (.ok loading)
  | path :: rest => do
    match ← settings.loadPath files loading path with
    | .error failure => return .error failure
    | .ok next => settings.loadPaths files next rest

/-- Asks for the diagnostic categories that the settings name. -/
def requestDiagnostics (settings : Settings) : Noted Unit :=
  match settings.categories with
  | none => pure ()
  | some categories =>
    Noted.note (.enable categories
      ⟨.debug, "diagnostic categories already fixed", [("categories", categories)]⟩)

/-- Loads the themes that the settings name. -/
def loadThemes (settings : Settings) (files : FileSource) :
    Noted (Except LoadFailure Loading) := do
  settings.requestDiagnostics
  match ← settings.loadPaths files (.empty, .empty) settings.paths with
  | .error failure => return .error failure
  | .ok (registry, report) =>
    Noted.report .info "theme animations loaded"
      [("files", Decimal.natural report.loaded.length),
        ("failed", Decimal.natural report.failed.length),
        ("triggers", Decimal.natural registry.size)]
    return .ok (registry, report)

end Settings

end ThemeMotion
