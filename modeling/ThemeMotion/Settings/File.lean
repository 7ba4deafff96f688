import ThemeMotion.Files.Path
import ThemeMotion.Files.Source
import ThemeMotion.Json.Writer
import ThemeMotion.Settings.Basic
import ThemeMotion.Toml.Reader
import ThemeMotion.Trace.Event

/-!
# Settings in a file

A settings file has a table for themes and one for diagnostics. What is missing is as
in the standard settings, what is unknown does not matter, and a value of the wrong
kind makes the whole file useless. Relative theme paths start from the directory of
the file.
-/

namespace ThemeMotion

open Trace (Noted)

/-- Why a settings file is of no use. -/
inductive SettingsError where
  | unreadable (path : String) (fault : FileFault)
  /-- The document is malformed, or a value is of the wrong kind. -/
  | invalid (path : String)
deriving DecidableEq, Repr

namespace SettingsError

/-- What was being done. -/
def context : SettingsError → String
  | .unreadable path _ => s!"failed to read {path}"
  | .invalid path => s!"failed to parse {path}"

/-- What was being done, and what went wrong. -/
def message (error : SettingsError) : String :=
  match error with
  | .unreadable _ fault => s!"{error.context}: {fault.message}"
  | .invalid _ => s!"{error.context}: invalid settings"

end SettingsError

namespace Settings

/-- The values of named fields. A table may also be written as an array of its fields
in order, and a date or a time has none of them. -/
def fields? (names : List String) : Toml → Option (List (Option Toml))
  | .table _ entries => some (names.map fun name => entries.lookup name)
  | .moment => some (names.map fun _ => none)
  | .array items => some (positional items)
  | .tables earlier newest => some (positional (earlier ++ [.table .headed newest]))
  | _ => none
where
  /-- The items of an array, as many as there are fields. -/
  positional (items : List Toml) : List (Option Toml) :=
    (List.range names.length).map fun place => items[place]?

/-- A text. -/
def textOf? : Toml → Option String
  | .string content => some content
  | _ => none

/-- A list of texts. -/
def textsOf? : Toml → Option (List String)
  | .array items => items.mapM textOf?
  | _ => none

/-- A truth value. -/
def flagOf? : Toml → Option Bool
  | .flag value => some value
  | _ => none

/-- A field that may be missing but not be of the wrong kind. -/
def orElse? {α : Type} (standard : α) (read? : Toml → Option α) : Option Toml → Option α
  | none => some standard
  | some value => read? value

/-- The settings under the table for themes. -/
def themes? (settings : Settings) (data : Toml) : Option Settings := do
  match ← fields? ["paths", "extension", "fail_fast"] data with
  | [paths, extension, failFast] =>
    return { settings with
      paths := ← orElse? settings.paths textsOf? paths
      extension := ← orElse? settings.extension textOf? extension
      failFast := ← orElse? settings.failFast flagOf? failFast }
  | _ => none

/-- The settings under the table for diagnostics. -/
def diagnostics? (settings : Settings) (data : Toml) : Option Settings := do
  match ← fields? ["categories"] data with
  | [categories] =>
    return { settings with
      categories := ←
        orElse? settings.categories (fun value => (textOf? value).map some) categories }
  | _ => none

/-- The settings of a document. -/
def ofToml? (document : Toml) : Option Settings := do
  match ← fields? ["theme", "diagnostics"] document with
  | [themes, diagnostics] =>
    let themed ← orElse? standard standard.themes? themes
    orElse? themed themed.diagnostics? diagnostics
  | _ => none

/-- The settings with relative theme paths below a directory. -/
def below (settings : Settings) (directory : String) : Settings :=
  { settings with
    paths := settings.paths.map fun path =>
      if Path.isRelative path then Path.join directory path else path }

/-- The settings of a file. -/
def load (files : FileSource) (path : String) : Except SettingsError Settings :=
  match files.read path with
  | .error fault => .error (.unreadable path fault)
  | .ok source =>
    match Toml.parse? source >>= fun table => ofToml? table.toToml with
    | some settings => .ok (settings.below (Path.directory path))
    | none => .error (.invalid path)

/-- The settings of a file, or the standard ones when there is no file or it is of no
use. A file of no use is reported. -/
def loadOrStandard (files : FileSource) (path : String) : Noted Settings := do
  if files.isPresent path then
    match load files path with
    | .ok settings => return settings
    | .error error =>
      Noted.report .warn "ignoring unloadable config, using defaults"
        [("path", path), ("error", error.message)]
      return standard
  else return standard

/-- The settings file in the working directory. -/
def standardPath : String := "rune.toml"

/-- The settings of the working directory under an environment. -/
def ofEnvironment (files : FileSource) (setting? : String → Option String) : Noted Settings := do
  return (← loadOrStandard files standardPath).override setting?

/-- The stored form of settings. -/
def toJson (settings : Settings) : Json :=
  Json.ofMembers
    [("theme", Json.ofMembers
      [("paths", .array (settings.paths.map Json.ofText)),
        ("extension", Json.ofText settings.extension),
        ("fail_fast", .boolean settings.failFast)]),
      ("diagnostics", Json.ofMembers
        [("categories", (settings.categories.map Json.ofText).getD .null)])]

end Settings

end ThemeMotion
