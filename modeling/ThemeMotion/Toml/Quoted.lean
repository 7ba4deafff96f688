import ThemeMotion.Decimal.Whole

/-!
# TOML strings

Basic strings stand between double quotes and know escapes; literal strings stand
between single quotes and know none. Between tripled quotes either kind may span
lines, and a line feed right after the opening does not count. Line ends are single
line feeds here.
-/

namespace ThemeMotion.Toml

/-- Space and tabulator. -/
def isGap (c : Char) : Bool := c == ' ' || c == '\t'

/-- A character that a comment or a string may hold on one line: no control character
but the tabulator. -/
def isInline (c : Char) : Bool := c == '\t' || (' ' ≤ c && c != '\x7f')

/-- The character of a code point in hexadecimal. -/
def codePoint? (digits : List Char) : Option Char := do
  let values ← digits.mapM Decimal.hexValue?
  let code := values.foldl (fun number digit => 16 * number + digit) 0
  if Nat.isValidChar code then some (Char.ofNat code) else none

/-- The character of an escape after its backslash, and what follows it. -/
def escape? : List Char → Option (Char × List Char)
  | 'b' :: rest => some ('\x08', rest)
  | 't' :: rest => some ('\t', rest)
  | 'n' :: rest => some ('\n', rest)
  | 'f' :: rest => some ('\x0c', rest)
  | 'r' :: rest => some ('\r', rest)
  | '"' :: rest => some ('"', rest)
  | '\\' :: rest => some ('\\', rest)
  | 'u' :: a :: b :: c :: d :: rest => (codePoint? [a, b, c, d]).map (·, rest)
  | 'U' :: a :: b :: c :: d :: e :: f :: g :: h :: rest =>
    (codePoint? [a, b, c, d, e, f, g, h]).map (·, rest)
  | _ => none

/-- What follows a backslash at the end of a line, from the next character that is no
blank. -/
def continued? (text : List Char) : Option (List Char) :=
  match text.dropWhile isGap with
  | '\n' :: rest => some (rest.dropWhile fun c => isGap c || c == '\n')
  | _ => none

/-- A string whose opening quotes have been read. -/
structure Quotes where
  quote : Char
  /-- The quotes are tripled. -/
  tripled : Bool

/-- What follows the closing quotes, and the quotes that still belong to the string:
up to two may stand before three that close. -/
def Quotes.close? (quotes : Quotes) (text : List Char) : Option (List Char × List Char) :=
  if quotes.tripled then
    let run := (text.takeWhile (· = quotes.quote)).length
    if 3 ≤ run then
      some (List.replicate (min run 5 - 3) quotes.quote, text.drop (min run 5))
    else none
  else match text with
    | [] => none
    | c :: rest => if c = quotes.quote then some ([], rest) else none

/-- The content of a string up to its closing quotes, and what follows them. Each step
takes at least one character. -/
def content? (quotes : Quotes) (text : List Char) : Option (List Char × List Char) :=
  match quotes.close? text with
  | some closed => some closed
  | none =>
    match text with
    | [] => none
    | c :: rest =>
      if c = '\\' ∧ quotes.quote = '"' then
        let resumed : Option (List Char × List Char) :=
          match quotes.tripled, continued? rest with
          | true, some after => some ([], after)
          | _, _ => (escape? rest).map fun (c, after) => ([c], after)
        match resumed with
        | none => none
        | some (written, after) =>
          if _shorter : after.length ≤ rest.length then
            (content? quotes after).map fun (others, last) => (written ++ others, last)
          else none
      else if isInline c ∨ (quotes.tripled ∧ c = '\n') then
        (content? quotes rest).map fun (others, last) => (c :: others, last)
      else none
termination_by text.length
decreasing_by all_goals simp only [List.length_cons]; omega

/-- The text after the line feed that follows tripled quotes. -/
def dropOpeningLine : List Char → List Char
  | '\n' :: rest => rest
  | text => text

/-- The string in front of a text, and what follows it. -/
def string? : List Char → Option (List Char × List Char)
  | '"' :: '"' :: '"' :: rest => content? ⟨'"', true⟩ (dropOpeningLine rest)
  | '\'' :: '\'' :: '\'' :: rest => content? ⟨'\'', true⟩ (dropOpeningLine rest)
  | '"' :: rest => content? ⟨'"', false⟩ rest
  | '\'' :: rest => content? ⟨'\'', false⟩ rest
  | _ => none

end ThemeMotion.Toml
