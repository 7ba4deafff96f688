import ThemeMotion.Text.Blank

/-!
# Fields of a text

A separator cuts a text into fields, one more than there are separators. Blank
runs cut a text into words, and no word is empty.
-/

namespace ThemeMotion.Text

/-- The pieces between the separators, the empty ones included. The first piece
is open while the rest is read, so a text without a separator is one field. -/
def fields (separator : Char) : List Char → List (List Char)
  | [] => [[]]
  | c :: rest =>
    match fields separator rest with
    | [] => [[c]]
    | field :: others =>
      if c = separator then [] :: field :: others else (c :: field) :: others

/-- A text has at least one field. -/
theorem fields_ne_nil (separator : Char) (text : List Char) : fields separator text ≠ [] := by
  cases text with
  | nil => simp [fields]
  | cons c rest =>
    simp only [fields]
    split
    · simp
    · split <;> simp

/-- The maximal runs of characters that are not blank. -/
def words (text : List Char) : List (List Char) :=
  go [] text
where
  /-- The run read so far is held in reverse. -/
  go (run : List Char) : List Char → List (List Char)
    | [] => if run.isEmpty then [] else [run.reverse]
    | c :: rest =>
      if isBlank c then
        if run.isEmpty then go [] rest else run.reverse :: go [] rest
      else go (c :: run) rest

/-- What follows the opening, when the text begins with it. -/
def dropOpening? : (opening text : List Char) → Option (List Char)
  | [], text => some text
  | _ :: _, [] => none
  | o :: opening, c :: text => if o = c then dropOpening? opening text else none

/-- What precedes the ending, when the text ends with it. -/
def dropEnding? (ending text : List Char) : Option (List Char) :=
  (dropOpening? ending.reverse text.reverse).map List.reverse

/-- ASCII letters in lower case, all other characters as they are. -/
def lower (text : List Char) : List Char := text.map Char.toLower

/-- Two texts agree when the case of ASCII letters is ignored. -/
def sameIgnoringCase (first second : String) : Bool :=
  lower first.toList == lower second.toList

end ThemeMotion.Text
