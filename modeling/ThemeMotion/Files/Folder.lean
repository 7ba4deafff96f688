import ThemeMotion.Files.Path
import ThemeMotion.Files.Source

/-!
# A folder in memory

A folder maps places to directories and files. A place is the list of names that
leads to it from the working directory. A path is walked segment by segment, and
each segment must start from a directory, also an idle one; a path may leave the
working directory upwards, but nothing else is found there.
-/

namespace ThemeMotion

/-- What lies at a place. Bytes that are no text are only known to be none. -/
inductive Entry where
  | directory
  | text (content : String)
  | bytes
deriving DecidableEq, Repr

/-- The places below a working directory and what lies at each. -/
structure Folder where
  entries : List (List String × Entry)
deriving DecidableEq, Repr

namespace Folder

/-- An empty working directory. -/
def empty : Folder := ⟨[]⟩

/-- Names from the working directory, or nothing for the surroundings. -/
abbrev Place := Option (List String)

/-- What lies at a place. The working directory and its surroundings are directories. -/
def entry? (folder : Folder) : Place → Option Entry
  | none => some .directory
  | some [] => some .directory
  | some names => folder.entries.lookup names

/-- The place that a segment leads to from a directory. -/
def move (here : Place) (segment : String) : Except FileFault Place :=
  if Path.isIdle segment then .ok here
  else match here with
    | none => if segment = ".." then .ok none else .error .notFound
    | some names =>
      if segment = ".." then .ok (if names.isEmpty then none else some names.dropLast)
      else .ok (some (names ++ [segment]))

/-- The entry at a place, which must be there. -/
def found (folder : Folder) (here : Place) : Except FileFault Entry :=
  match folder.entry? here with
  | some entry => .ok entry
  | none => .error .notFound

/-- Walks one segment. -/
def step (folder : Folder) (here : Place) (segment : String) : Except FileFault Place := do
  match ← folder.found here with
  | .directory => move here segment
  | _ => throw .notDirectory

/-- The place from which a path is walked. -/
def start (path : String) : Place := if Path.isRelative path then some [] else none

/-- The place and the entry that a path leads to. -/
def locate (folder : Folder) (path : String) : Except FileFault (Place × Entry) := do
  if path.toList.contains '\x00' then throw .nulInPath
  if path.isEmpty then throw .notFound
  let place ← (Path.segments path).foldlM folder.step (start path)
  return (place, ← folder.found place)

/-- The text of a file. -/
def read (folder : Folder) (path : String) : Except FileFault String := do
  match ← folder.locate path with
  | (_, .text content) => return content
  | (_, .bytes) => throw .notText
  | (_, .directory) => throw .isDirectory

/-- The name of an entry right below a place. -/
def nameBelow? (here : List String) (names : List String) : Option String :=
  match names.getLast? with
  | some name => if names.dropLast = here then some name else none
  | none => none

/-- The names right below a directory. -/
def list (folder : Folder) (path : String) : Except FileFault (List String) := do
  match ← folder.locate path with
  | (some here, .directory) => return folder.entries.filterMap fun entry => nameBelow? here entry.1
  | (none, .directory) => return []
  | _ => throw .notDirectory

/-- The entry at a path, if there is one. -/
def at? (folder : Folder) (path : String) : Option Entry :=
  (folder.locate path).toOption.map Prod.snd

/-- A folder as a host's files. -/
def source (folder : Folder) : FileSource where
  read := folder.read
  list := folder.list
  isDirectory path := folder.at? path == some .directory
  isFile path := match folder.at? path with
    | some .directory => false
    | some _ => true
    | none => false
  isPresent path := (folder.at? path).isSome

/-- Everything but what lies at a place or below it. -/
def without (folder : Folder) (place : List String) : Folder :=
  ⟨folder.entries.filter fun entry => !place.isPrefixOf entry.1⟩

/-- Puts an entry at a place whose directories are there. -/
def put (folder : Folder) (place : List String) (entry : Entry) : Folder :=
  ⟨(folder.without place).entries ++ [(place, entry)]⟩

/-- Makes the directories that segments lead through, each where nothing lies yet. Gives
the last of them, unless something else is in the way. -/
def makeWay (folder : Folder) (here : Place) : List String → Folder × Except FileFault Place
  | [] => (folder, .ok here)
  | segment :: rest =>
    match move here segment with
    | .error fault => (folder, .error fault)
    | .ok next =>
      match folder.entry? next, next with
      | some .directory, _ => folder.makeWay next rest
      | none, some place => (folder.put place .directory).makeWay next rest
      | _, _ => (folder, .error .notDirectory)

/-- Writes a file into a directory, unless a directory has that name. -/
def putFile (folder : Folder) (here : Place) (name : String) (content : Entry) : Folder :=
  match move here name with
  | .ok (some place) =>
    if folder.entry? (some place) = some .directory then folder else folder.put place content
  | _ => folder

/-- The segments of a path up to the last that moves, last first, and the idle ones
after it. -/
def ending (path : String) : List String × List String :=
  let (idle, moving) := (Path.segments path).reverse.span Path.isIdle
  (moving, idle)

/-- Writes a file, with the directories on its way. A path that ends in an idle segment
names no file. -/
def write (folder : Folder) (path : String) (content : Entry) : Folder :=
  match ending path with
  | ([], _) => folder
  | (name :: outer, idle) =>
    match folder.makeWay (start path) outer.reverse with
    | (made, .ok here) => if idle.isEmpty then made.putFile here name content else made
    | (made, .error _) => made

/-- Makes a directory, with the directories on its way. Before an idle `.` its name says
that the directory is there already, so only those on its way are made. -/
def mkdir (folder : Folder) (path : String) : Folder :=
  match ending path with
  | ([], _) => folder
  | (name :: outer, idle) =>
    let way := if idle.all String.isEmpty then name :: outer else outer
    (folder.makeWay (start path) way.reverse).1

/-- Deletes a file, or a directory with all that lies below it. -/
def delete (folder : Folder) (path : String) : Folder :=
  match folder.locate path with
  | .ok (some place, _) => folder.without place
  | _ => folder

end Folder

end ThemeMotion
