import ThemeMotion.Markup.Fault
import ThemeMotion.Text.Units

/-!
# References in attribute values

An ampersand, a name and a semicolon stand for one of five characters; a number sign
and a number stand for the character of that code point. All else in a value stands
for itself, newlines included.
-/

namespace ThemeMotion.Markup

/-- The character of a predefined name. -/
def predefined? (name : List Char) : Option Char :=
  if name = "lt".toList then some '<'
  else if name = "gt".toList then some '>'
  else if name = "amp".toList then some '&'
  else if name = "apos".toList then some '\''
  else if name = "quot".toList then some '"'
  else none

/-- Digits on top of a number within 32 bits. The first digit that is none, or that
makes the number too large, decides. -/
def number (radix : Nat) : (sum : Nat) → List Char → Except ReferenceFault Nat
  | sum, [] => .ok sum
  | sum, c :: rest =>
    match Decimal.hexValue? c with
    | none => .error .digit
    | some digit =>
      if radix ≤ digit then .error .digit
      else if 0xFFFFFFFF < radix * sum + digit then .error .tooLarge
      else number radix (radix * sum + digit) rest

/-- A number without a sign and with at least one digit. -/
def unsigned (radix : Nat) : List Char → Except ReferenceFault Nat
  | [] => .error .empty
  | c :: rest => if c = '+' ∨ c = '-' then .error .sign else number radix 0 (c :: rest)

/-- The character of a code point; zero is no character of a document. -/
def character (code : Nat) : Except ReferenceFault Char :=
  if code = 0 then .error .null
  else if code.isValidChar then .ok (Char.ofNat code)
  else .error (.noCharacter code)

/-- The character of a numeric reference after its number sign; a lower-case x makes
it hexadecimal. -/
def numericReference : List Char → Except ReferenceFault Char
  | 'x' :: digits => unsigned 16 digits >>= character
  | digits => unsigned 10 digits >>= character

/-- The character of a reference between its ampersand, which stands at the given
byte, and its semicolon. -/
def reference (position : Nat) (name : List Char) : Except ValueFault Char :=
  match name with
  | '#' :: digits => (numericReference digits).mapError .reference
  | _ =>
    match predefined? name with
    | some c => .ok c
    | none => .error (.unknownEntity (position + 1) (position + 1 + Text.byteLength name)
        (String.ofList name))

/-- The text up to the semicolon that ends a reference, and what follows it; none when
the text ends or another ampersand comes first. -/
def splitReference? : List Char → Option (List Char × List Char)
  | [] => none
  | c :: rest =>
    if c = ';' then some ([], rest)
    else if c = '&' then none
    else (splitReference? rest).map fun (name, after) => (c :: name, after)

/-- What follows a reference is shorter than the text. -/
theorem splitReference?_length_lt (text name after : List Char)
    (found : splitReference? text = some (name, after)) : after.length < text.length := by
  induction text generalizing name with
  | nil => simp [splitReference?] at found
  | cons c rest inductionHypothesis =>
    simp only [splitReference?] at found
    split at found
    · simp_all
    · split at found
      · simp at found
      · simp only [Option.map_eq_some_iff, Prod.mk.injEq] at found
        obtain ⟨⟨inner, tail⟩, split, rfl, rfl⟩ := found
        exact Nat.lt_succ_of_lt (inductionHypothesis inner split)

/-- A value, of which the rest begins at the given byte, with its references
replaced. The whole value has the given number of bytes. -/
def unescapeFrom (size position : Nat) : List Char → Except ValueFault (List Char)
  | [] => .ok []
  | c :: rest =>
    if c = '&' then
      match found : splitReference? rest with
      | none => .error (.unterminated position size)
      | some (name, after) => do
        let replaced ← reference position name
        let more ← unescapeFrom size (position + Text.byteLength name + 2) after
        return replaced :: more
    else do
      let more ← unescapeFrom size (position + c.utf8Size) rest
      return c :: more
termination_by text => text.length
decreasing_by
  · exact Nat.lt_succ_of_lt (splitReference?_length_lt rest name after found)
  · simp

/-- The text that a value stands for. -/
def unescape (value : List Char) : Except ValueFault (List Char) :=
  unescapeFrom (Text.byteLength value) 0 value

end ThemeMotion.Markup
