/-!
# JSON data

A JSON text denotes a tree of null, booleans, numbers, strings, arrays and objects. A
number is kept as it is written, since what it denotes depends on the word it is read
into. Members of an object keep their order, and a key may repeat.
-/

namespace ThemeMotion

/-- A letter of a string: a character, or a surrogate that stands without its other
half and so is no character. -/
inductive Letter where
  | char (c : Char)
  | half (unit : Nat)
deriving DecidableEq, Repr

/-- A tree of JSON data. -/
inductive Json where
  | null
  | boolean (value : Bool)
  | number (lexeme : List Char)
  | string (letters : List Letter)
  | array (items : List Json)
  | object (members : List (List Letter × Json))

namespace Json

/-- The letters of a text. -/
def letters (text : String) : List Letter := text.toList.map .char

/-- The character of a letter that is one. -/
def char? : Letter → Option Char
  | .char c => some c
  | .half _ => none

/-- The text of letters that all are characters. -/
def text? (letters : List Letter) : Option String := (letters.mapM char?).map String.ofList

/-- A string. -/
def ofText (text : String) : Json := .string (letters text)

/-- An object with its members in order. -/
def ofMembers (members : List (String × Json)) : Json :=
  .object (members.map fun member => (letters member.1, member.2))

end Json

end ThemeMotion
