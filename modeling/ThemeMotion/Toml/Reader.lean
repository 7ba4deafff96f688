import ThemeMotion.Toml.Quoted
import ThemeMotion.Toml.Scalar

/-!
# Reading TOML

A document is read line by line. A line defines a table by a header, adds a table to
an array by a doubled header, or gives a value to a key of the table defined last.
Arrays may span lines; a table between braces may not.
-/

namespace ThemeMotion.Toml

/-- Keys have no more parts than this, and values are nested no deeper. -/
def depthLimit : Nat := 79

/-- The text without the blanks in front. -/
def skipGap (text : List Char) : List Char := text.dropWhile isGap

/-- The text after blanks, line ends and comments. -/
def skipLines (text : List Char) : List Char :=
  match text with
  | [] => []
  | c :: rest =>
    if isGap c ∨ c = '\n' then skipLines rest
    else if c = '#' then skipLines (rest.dropWhile isInline)
    else text
termination_by text.length
decreasing_by
  · simp
  · have := (List.dropWhile_suffix isInline (l := rest)).length_le
    simp only [List.length_cons]
    omega

/-- The text after the end of a line, which may hold a comment. The end of the text
ends its last line. -/
def endLine? (text : List Char) : Option (List Char) :=
  let after := match skipGap text with
    | '#' :: comment => comment.dropWhile isInline
    | rest => rest
  match after with
  | [] => some []
  | '\n' :: rest => some rest
  | _ => none

/-- A character of a key without quotes. -/
def isBareChar (c : Char) : Bool := c.isAlphanum || c == '_' || c == '-'

/-- A part of a key: a string on one line, or a bare word. -/
def keyPart? (text : List Char) : Option (String × List Char) :=
  match text with
  | '"' :: rest => (content? ⟨'"', false⟩ rest).map fun (name, rest) => (String.ofList name, rest)
  | '\'' :: rest => (content? ⟨'\'', false⟩ rest).map fun (name, rest) => (String.ofList name, rest)
  | _ =>
    let word := text.takeWhile isBareChar
    if word.isEmpty then none else some (String.ofList word, text.dropWhile isBareChar)

/-- The parts of a key with points between them. Blanks may stand around each. -/
def keyParts? (text : List Char) : Option (List String × List Char) :=
  match keyPart? (skipGap text) with
  | none => none
  | some (part, after) =>
    match skipGap after with
    | '.' :: rest =>
      if _shorter : rest.length < text.length then
        (keyParts? rest).map fun (others, last) => (part :: others, last)
      else none
    | rest => some ([part], rest)
termination_by text.length

/-- A key: the way to a table, and the name in it. -/
structure Key where
  way : List String
  name : String
deriving DecidableEq, Repr

/-- The key in front of a text, and what follows it. -/
def key? (text : List Char) : Option (Key × List Char) := do
  let (parts, rest) ← keyParts? text
  let name ← parts.getLast?
  if parts.length ≤ depthLimit then some (⟨parts.dropLast, name⟩, rest) else none

/-- Reads something in front of a text. -/
abbrev Reader (α : Type) := List Char → Option (α × List Char)

/-- A key, an equals sign and a value. -/
def pair? (value : Reader Toml) : Reader (Key × Toml) := fun text => do
  match ← key? text with
  | (key, '=' :: rest) =>
    let (value, after) ← value (skipGap rest)
    return ((key, value), after)
  | _ => none

/-- The items of an array whose opening bracket has been read. A comma may stand behind
the last item. -/
def arrayItems? (item : Reader Toml) (text : List Char) : Option (List Toml × List Char) :=
  match skipLines text with
  | ']' :: rest => some ([], rest)
  | start =>
    match item start with
    | none => none
    | some (first, after) =>
      match skipLines after with
      | ']' :: rest => some ([first], rest)
      | ',' :: rest =>
        if _shorter : rest.length < text.length then
          (arrayItems? item rest).map fun (others, last) => (first :: others, last)
        else none
      | _ => none
termination_by text.length

/-- One or more pairs of a table between braces, up to the closing one. No comma stands
behind the last pair. -/
def bracedPairs? (pair : Reader (Key × Toml)) (text : List Char) :
    Option (List (Key × Toml) × List Char) :=
  match pair text with
  | none => none
  | some (first, after) =>
    match skipGap after with
    | '\x7d' :: rest => some ([first], rest)
    | ',' :: rest =>
      if _shorter : rest.length < text.length then
        (bracedPairs? pair rest).map fun (others, last) => (first :: others, last)
      else none
    | _ => none
termination_by text.length

/-- The table of pairs between braces. -/
def bracedTable? (pairs : List (Key × Toml)) : Option Toml :=
  (pairs.foldlM (fun (current : Table) (pair : Key × Toml) =>
    current.insert? pair.1.way pair.1.name pair.2) ⟨.braced, []⟩).map Table.toToml

/-- Reads a value that is nested no deeper than a bound. -/
def valueWithin (depth : Nat) : Reader Toml := fun text =>
  match text with
  | '"' :: _ => stringValue text
  | '\'' :: _ => stringValue text
  | '[' :: rest =>
    match depth with
    | 0 => none
    | inner + 1 =>
      (arrayItems? (valueWithin inner) rest).map fun (items, after) => (.array items, after)
  | '\x7b' :: rest =>
    match depth with
    | 0 => none
    | inner + 1 =>
      match skipGap rest with
      | '\x7d' :: after => some (.table .braced [], after)
      | start => do
        let (pairs, after) ← bracedPairs? (pair? (valueWithin inner)) start
        return (← bracedTable? pairs, after)
  | _ => scalar? text
where
  /-- A string as a value. -/
  stringValue (text : List Char) : Option (Toml × List Char) :=
    (string? text).map fun (content, rest) => (.string (String.ofList content), rest)

/-- What has been read of a document. -/
structure Draft where
  root : Table
  /-- The way to the table that pairs go into. -/
  here : List String

namespace Draft

/-- The draft before anything is read. -/
def start : Draft := ⟨.root, []⟩

/-- Takes the header of a table. -/
def define? (draft : Draft) (key : Key) : Option Draft :=
  (draft.root.define? key.way key.name).map fun root => ⟨root, key.way ++ [key.name]⟩

/-- Takes the header of a table in an array. -/
def append? (draft : Draft) (key : Key) : Option Draft :=
  (draft.root.append? key.way key.name).map fun root => ⟨root, key.way ++ [key.name]⟩

/-- Takes a pair. -/
def insert? (draft : Draft) (key : Key) (value : Toml) : Option Draft :=
  (Table.alter .header (fun table => table.insert? key.way key.name value) draft.here
    draft.root).map fun root => { draft with root }

/-- Takes what stands in front of a line that is not empty. -/
def statement? (draft : Draft) : Reader Draft
  | '[' :: '[' :: rest => do
    match ← key? rest with
    | (key, ']' :: ']' :: after) => return (← draft.append? key, after)
    | _ => none
  | '[' :: rest => do
    match ← key? rest with
    | (key, ']' :: after) => return (← draft.define? key, after)
    | _ => none
  | text => do
    let ((key, value), after) ← pair? (valueWithin depthLimit) text
    return (← draft.insert? key value, after)

/-- Takes all lines of a text. Each takes at least one character. -/
def lines? (draft : Draft) (text : List Char) : Option Draft :=
  match skipLines text with
  | [] => some draft
  | start =>
    match draft.statement? start with
    | none => none
    | some (next, after) =>
      match endLine? after with
      | none => none
      | some rest => if _shorter : rest.length < text.length then next.lines? rest else none
termination_by text.length

end Draft

/-- The text with single line feeds for line ends. -/
def plainLines : List Char → List Char
  | '\r' :: '\n' :: rest => '\n' :: plainLines rest
  | c :: rest => c :: plainLines rest
  | [] => []

/-- The text without a byte order mark. -/
def dropMark : List Char → List Char
  | '\ufeff' :: rest => rest
  | text => text

/-- The table of a document. -/
def parse? (source : String) : Option Table :=
  (Draft.start.lines? (plainLines (dropMark source.toList))).map (·.root)

end ThemeMotion.Toml
