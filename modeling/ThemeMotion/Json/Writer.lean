import ThemeMotion.Json.Quoted

/-!
# Writing JSON

A value is written without blanks.
-/

namespace ThemeMotion.Json

/-- The writings of items with commas between them. -/
def commaSeparated : List (List Char) → List Char
  | [] => []
  | [last] => last
  | item :: rest => item ++ ',' :: commaSeparated rest

mutual

/-- The writing of a value. -/
def write : Json → List Char
  | .null => "null".toList
  | .boolean true => "true".toList
  | .boolean false => "false".toList
  | .number lexeme => lexeme
  | .string letters => quote letters
  | .array items => '[' :: (commaSeparated (writeItems items) ++ [']'])
  | .object members => '\x7b' :: (commaSeparated (writeMembers members) ++ ['\x7d'])

/-- The writings of the items of an array. -/
def writeItems : List Json → List (List Char)
  | [] => []
  | item :: rest => write item :: writeItems rest

/-- The writings of the members of an object. -/
def writeMembers : List (List Letter × Json) → List (List Char)
  | [] => []
  | (key, value) :: rest => (quote key ++ ':' :: write value) :: writeMembers rest

end

/-- The text of a value. -/
def render (json : Json) : String := String.ofList json.write

end ThemeMotion.Json
