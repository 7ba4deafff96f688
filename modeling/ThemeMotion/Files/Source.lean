/-!
# Files of a host

Theme files and settings are read through a few questions about paths. A host may
answer them as it likes; in particular a directory lists its entries in no order.
-/

namespace ThemeMotion

/-- Why a path could not be used. -/
inductive FileFault where
  | notFound
  | notDirectory
  | isDirectory
  /-- The bytes of the file are no text. -/
  | notText
  /-- A path that no file system takes. -/
  | nulInPath
deriving DecidableEq, Repr

/-- The wording of a fault, with the number of the system's error where it has one. -/
def FileFault.message : FileFault → String
  | .notFound => "No such file or directory (os error 2)"
  | .notDirectory => "Not a directory (os error 20)"
  | .isDirectory => "Is a directory (os error 21)"
  | .notText => "stream did not contain valid UTF-8"
  | .nulInPath => "file name contained an unexpected NUL byte"

/-- The questions that a host answers about its files. -/
structure FileSource where
  /-- The text of a file. -/
  read : String → Except FileFault String
  /-- The names of the entries of a directory. -/
  list : String → Except FileFault (List String)
  isDirectory : String → Bool
  isFile : String → Bool
  /-- Something lies at the path. -/
  isPresent : String → Bool

end ThemeMotion
