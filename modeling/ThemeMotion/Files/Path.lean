import ThemeMotion.Text.Fields

/-!
# Paths

A path is a text. It is kept as it was written: nothing is simplified, so joining
adds text and taking a part removes text.
-/

namespace ThemeMotion.Path

/-- The character between the segments of a path. -/
def separator : Char := '/'

/-- The segments of a path; doubled and closing separators give empty ones. -/
def segments (path : String) : List String :=
  (Text.fields separator path.toList).map String.ofList

/-- A path that starts from the working directory. -/
def isRelative (path : String) : Bool := path.toList.head? != some separator

/-- A name, or another relative path, below a directory. An empty directory path adds
nothing. -/
def join (directory name : String) : String :=
  match directory.toList.getLast? with
  | none => name
  | some last =>
    if last = separator then directory ++ name
    else directory ++ String.singleton separator ++ name

/-- What follows the last point of a file name. A name whose only point comes first
has no extension. -/
def extension? (name : String) : Option String :=
  match (Text.fields '.' name.toList).reverse with
  | last :: before :: earlier =>
    if before.isEmpty && earlier.isEmpty then none else some (String.ofList last)
  | _ => none

/-- Segments that name no other place than the one before them. -/
def isIdle (segment : String) : Bool := segment == "" || segment == "."

/-- The directory part of the path of a file, without the idle segments at its end. A
mere name has an empty one, and the root is its own. -/
def directory (path : String) : String :=
  match (segments path).dropLast with
  | [] => ""
  | first :: inner =>
    let kept := (inner.reverse.dropWhile isIdle).reverse
    if kept.isEmpty && first.isEmpty then String.singleton separator
    else (String.singleton separator).intercalate (first :: kept)

end ThemeMotion.Path
