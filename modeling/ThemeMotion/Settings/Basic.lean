import ThemeMotion.Text.Fields

/-!
# Settings

The settings say where themes are found, how failures are treated, and which
diagnostics are wanted. Variables of the environment override them.
-/

namespace ThemeMotion

/-- What a host configures. -/
structure Settings where
  /-- Theme files and directories, in the order of loading. -/
  paths : List String
  /-- The extension of theme files in directories. -/
  extension : String
  /-- Stop at the first file that fails, instead of leaving it out. -/
  failFast : Bool
  /-- The diagnostic categories to enable, if any are named. -/
  categories : Option String
deriving DecidableEq, Repr

namespace Settings

/-- The settings of a host that configures nothing. -/
def standard : Settings := ⟨[], "xml", false, none⟩

/-- The variable that lists theme paths. -/
def pathVariable : String := "RUNE_THEME_PATH"

/-- The variable that decides about failures. -/
def failFastVariable : String := "RUNE_THEME_FAIL_FAST"

/-- The variable that names diagnostic categories. -/
def categoriesVariable : String := "RUNE_DIAGNOSTICS"

/-- The paths between the colons of a text, kept as they are; blank ones are left out. -/
def listedPaths (text : String) : List String :=
  ((Text.fields ':' text.toList).filter fun field => !(Text.trim field).isEmpty).map String.ofList

/-- A switch is on when it is one or true. -/
def isOn (text : String) : Bool := text == "1" || Text.sameIgnoringCase text "true"

/-- The settings under an environment, which is asked for each variable. -/
def override (settings : Settings) (setting? : String → Option String) : Settings where
  paths := ((setting? pathVariable).map listedPaths).getD settings.paths
  extension := settings.extension
  failFast := ((setting? failFastVariable).map isOn).getD settings.failFast
  categories := setting? categoriesVariable <|> settings.categories

end Settings

end ThemeMotion
