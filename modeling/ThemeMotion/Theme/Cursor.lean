import ThemeMotion.Text.Units

/-!
# Places in a document

A cursor follows the reading of a document from event to event. It is told bytes and
keeps lines and columns: only a line feed starts a line, and a column counts
characters. A byte within a character leaves the cursor where it is. Lines and columns
are words, and begin again behind the largest.
-/

namespace ThemeMotion

/-- A line and a column, both counted from one. -/
structure Place where
  line : UInt32
  column : UInt32
deriving DecidableEq, Repr

namespace Place

/-- The place before any text. -/
def start : Place := ⟨1, 1⟩

/-- The place behind one more character. -/
def next (place : Place) (c : Char) : Place :=
  if c = '\n' then ⟨place.line + 1, 1⟩ else ⟨place.line, place.column + 1⟩

end Place

/-- A place in a document, the bytes before it, and the text behind it. -/
structure Cursor where
  place : Place
  offset : Nat
  rest : List Char
deriving DecidableEq, Repr

namespace Cursor

/-- The cursor at the start of a document. -/
def ofSource (source : String) : Cursor := ⟨.start, 0, source.toList⟩

/-- Cuts off the given number of bytes, or all of a shorter text; none when the cut
falls within a character. -/
def splitBytes? : (bytes : Nat) → List Char → Option (List Char × List Char)
  | _, [] => some ([], [])
  | 0, text => some ([], text)
  | bytes, c :: rest =>
    if c.utf8Size ≤ bytes then
      (splitBytes? (bytes - c.utf8Size) rest).map fun (before, after) => (c :: before, after)
    else none

/-- The cursor behind the given number of bytes of the document, unless it is there
already or further on, or the bytes end within a character. -/
def advance (cursor : Cursor) (offset : Nat) : Cursor :=
  match splitBytes? (offset - cursor.offset) cursor.rest with
  | none => cursor
  | some (passed, rest) =>
    { place := passed.foldl Place.next cursor.place
      offset := cursor.offset + Text.byteLength passed
      rest }

end Cursor

end ThemeMotion
