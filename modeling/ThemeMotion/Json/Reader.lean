import ThemeMotion.Json.Number
import ThemeMotion.Json.Quoted

/-!
# Reading JSON

A text is read from the front. Blanks may stand around every token. A list ends at its
closing bracket and has commas between its items, but none behind the last.
-/

namespace ThemeMotion.Json

/-- Space, line feed, tabulator and carriage return. -/
def isGap (c : Char) : Bool := c == ' ' || c == '\n' || c == '\t' || c == '\r'

/-- The text without the blanks in front. -/
def skipGap (text : List Char) : List Char := text.dropWhile isGap

/-- Reads something in front of a text. -/
abbrev Reader (α : Type) := List Char → Option (α × List Char)

/-- One or more items with commas between them, up to the closing bracket. An item
takes at least one character, so each comma leaves less to read. -/
def itemsUntil {α : Type} (closing : Char) (item : Reader α) (text : List Char) :
    Option (List α × List Char) :=
  match item text with
  | none => none
  | some (first, after) =>
    match skipGap after with
    | [] => none
    | c :: rest =>
      if c = closing then some ([first], rest)
      else if c = ',' then
        if _shorter : rest.length < text.length then
          (itemsUntil closing item rest).map fun (others, last) => (first :: others, last)
        else none
      else none
termination_by text.length

/-- The items of a list whose opening bracket has been read. -/
def listUntil {α : Type} (closing : Char) (item : Reader α) : Reader (List α) := fun text =>
  match skipGap text with
  | [] => none
  | c :: rest => if c = closing then some ([], rest) else itemsUntil closing item (c :: rest)

/-- A member of an object. -/
def memberOf (value : Reader Json) : Reader (List Letter × Json) := fun text => do
  match skipGap text with
  | '"' :: rest =>
    let (key, afterKey) ← unquote? rest
    match skipGap afterKey with
    | ':' :: rest =>
      let (value, after) ← value rest
      return ((key, value), after)
    | _ => none
  | _ => none

/-- Reads a value that is nested no deeper than a bound. -/
def valueWithin : (depth : Nat) → Reader Json
  | 0, _ => none
  | depth + 1, text =>
    match skipGap text with
    | 'n' :: 'u' :: 'l' :: 'l' :: rest => some (.null, rest)
    | 't' :: 'r' :: 'u' :: 'e' :: rest => some (.boolean true, rest)
    | 'f' :: 'a' :: 'l' :: 's' :: 'e' :: rest => some (.boolean false, rest)
    | '"' :: rest => (unquote? rest).map fun (letters, after) => (.string letters, after)
    | '[' :: rest =>
      (listUntil ']' (valueWithin depth) rest).map fun (items, after) => (.array items, after)
    | '\x7b' :: rest =>
      (listUntil '\x7d' (memberOf (valueWithin depth)) rest).map fun (members, after) =>
        (.object members, after)
    | text => (lexeme? text).map fun (lexeme, after) => (.number lexeme, after)

/-- Reads a text that holds one value. Nesting is no deeper than the text is long. -/
def parse? (text : String) : Option Json :=
  match valueWithin (text.toList.length + 1) text.toList with
  | some (value, rest) => if (skipGap rest).isEmpty then some value else none
  | none => none

end ThemeMotion.Json
