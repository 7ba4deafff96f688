import ThemeMotion.Json.Number
import ThemeMotion.Json.Basic

/-!
# Stored records

Stored data are records of named fields. A record is an object in which each field
occurs once and other members do not matter, or an array of the fields in order. A
tagged record names its kind in a member of its own, or first in the array.
-/

namespace ThemeMotion.Stored

/-- How deep stored data may be nested. -/
def depthLimit : Nat := 127

/-- Every string is a text, every number lies within the doubles, and arrays and
objects are nested no deeper than a bound. -/
def isSound : (depth : Nat) → Json → Bool
  | _, .null => true
  | _, .boolean _ => true
  | _, .number lexeme => (Json.number? lexeme).isSome
  | _, .string letters => (Json.text? letters).isSome
  | depth + 1, .array items => items.all (isSound depth)
  | depth + 1, .object members =>
    members.all fun (key, value) => (Json.text? key).isSome && isSound depth value
  | 0, .array _ => false
  | 0, .object _ => false

/-- Every key of an object is a text. -/
def hasSoundKeys : Json → Bool
  | .object members => members.all fun member => (Json.text? member.1).isSome
  | _ => true

/-- A text. -/
def text? : Json → Option String
  | .string letters => Json.text? letters
  | _ => none

/-- A truth value. -/
def boolean? : Json → Option Bool
  | .boolean value => some value
  | _ => none

/-- A number. -/
def number? : Json → Option Json.Number
  | .number lexeme => Json.number? lexeme
  | _ => none

/-- A whole number. -/
def whole? (json : Json) : Option Int :=
  match number? json with
  | some (.whole value) => some value
  | _ => none

/-- The double nearest to a number. -/
def double? (json : Json) : Option Float :=
  (number? json).map fun
    | .whole value => doubleOfInt value
    | .real value => value

/-- The single nearest to a whole number, or to the double of any other. -/
def single? (json : Json) : Option Float32 :=
  (number? json).map fun
    | .whole value => singleOfInt value
    | .real value => narrow value

/-- The values of a key. -/
def valuesOf (members : List (List Letter × Json)) (key : String) : List Json :=
  (members.filter fun member => member.1 == Json.letters key).map Prod.snd

/-- The value of a key that occurs once. -/
def onlyValue? (members : List (List Letter × Json)) (key : String) : Option Json :=
  match valuesOf members key with
  | [value] => some value
  | _ => none

/-- The values of the fields of a record, in the order of the names. -/
def record? (names : List String) : Json → Option (List Json)
  | .array items => if items.length = names.length then some items else none
  | .object members => names.mapM (onlyValue? members)
  | _ => none

/-- The key that names a kind. -/
def tagKey : String := "type"

/-- The kind of a tagged record, and the record without it. -/
def tagged? : Json → Option (String × Json)
  | .array (tag :: items) => (text? tag).map fun tag => (tag, .array items)
  | .object members => do
    let tag ← onlyValue? members tagKey >>= text?
    return (tag, .object (members.filter fun member => member.1 != Json.letters tagKey))
  | _ => none

/-- A record without fields of its own. An object may have members that do not matter,
an array has no items. -/
def isEmptyRecord : Json → Bool
  | .array items => items.isEmpty
  | .object _ => true
  | _ => false

/-- A tagged record. -/
def ofTagged (tag : String) (fields : List (String × Json)) : Json :=
  Json.ofMembers ((tagKey, Json.ofText tag) :: fields)

end ThemeMotion.Stored
