import ThemeMotion.Decimal.Whole
import ThemeMotion.Json.Basic

/-!
# JSON strings

A string stands between double quotes. Quotes, backslashes and control characters are
written as escapes; every other character may stand for itself. An escape may also
give one half of a surrogate pair, and two halves in a row are one character.
-/

namespace ThemeMotion.Json

/-- A unit that is the first half of a pair. -/
def isFirstHalf (unit : Nat) : Bool := 0xD800 ≤ unit && unit < 0xDC00

/-- A unit that is the second half of a pair. -/
def isSecondHalf (unit : Nat) : Bool := 0xDC00 ≤ unit && unit < 0xE000

/-- The letter of a 16-bit unit. -/
def letterOfUnit (unit : Nat) : Letter :=
  if isFirstHalf unit || isSecondHalf unit then .half unit else .char (Char.ofNat unit)

/-- The character of a pair of halves. -/
def charOfPair (first second : Nat) : Char :=
  Char.ofNat (0x10000 + 0x400 * (first - 0xD800) + (second - 0xDC00))

/-- Joins halves that stand next to each other and belong together. -/
def joinHalves : List Letter → List Letter
  | .half first :: .half second :: rest =>
    if isFirstHalf first && isSecondHalf second then
      .char (charOfPair first second) :: joinHalves rest
    else .half first :: joinHalves (.half second :: rest)
  | letter :: rest => letter :: joinHalves rest
  | [] => []

/-- The unit of four hexadecimal digits. -/
def unit? (digits : List Char) : Option Nat :=
  (digits.mapM Decimal.hexValue?).map fun values =>
    values.foldl (fun number digit => 16 * number + digit) 0

/-- The character of an escape of one letter. -/
def escaped? : Char → Option Char
  | '"' => some '"'
  | '\\' => some '\\'
  | '/' => some '/'
  | 'b' => some '\x08'
  | 'f' => some '\x0c'
  | 'n' => some '\n'
  | 'r' => some '\r'
  | 't' => some '\t'
  | _ => none

/-- The letters up to the closing quote, halves apart, and what follows the quote. -/
def units? : List Char → Option (List Letter × List Char)
  | [] => none
  | '"' :: rest => some ([], rest)
  | '\\' :: 'u' :: a :: b :: c :: d :: rest => do
    let unit ← unit? [a, b, c, d]
    let (letters, after) ← units? rest
    return (letterOfUnit unit :: letters, after)
  | '\\' :: e :: rest => do
    let c ← escaped? e
    let (letters, after) ← units? rest
    return (.char c :: letters, after)
  | c :: rest => do
    if c < ' ' ∨ c = '\\' then none
    let (letters, after) ← units? rest
    return (.char c :: letters, after)

/-- The letters up to the closing quote, and what follows the quote. -/
def unquote? (text : List Char) : Option (List Letter × List Char) :=
  (units? text).map fun (letters, rest) => (joinHalves letters, rest)

/-- A unit as an escape. -/
def unitEscape (unit : Nat) : List Char := '\\' :: 'u' :: Decimal.hexDigits 4 unit

/-- The writing of one character: the short escape where there is one, four digits for
any other control character, and else the character itself. -/
def writeChar (c : Char) : List Char :=
  match c with
  | '"' => ['\\', '"']
  | '\\' => ['\\', '\\']
  | '\x08' => ['\\', 'b']
  | '\x0c' => ['\\', 'f']
  | '\n' => ['\\', 'n']
  | '\r' => ['\\', 'r']
  | '\t' => ['\\', 't']
  | c => if c < ' ' then unitEscape c.toNat else [c]

/-- The writing of one letter. -/
def writeLetter : Letter → List Char
  | .char c => writeChar c
  | .half unit => unitEscape unit

/-- The writing of a string. -/
def quote (letters : List Letter) : List Char := '"' :: (letters.flatMap writeLetter ++ ['"'])

end ThemeMotion.Json
