/-!
# Whole numbers in decimal

Digits are ASCII. Writing gives the digits without leading zeros; reading accepts
any number of them.
-/

namespace ThemeMotion.Decimal

/-- The character of a digit below ten. -/
def digitChar (digit : Nat) : Char := Char.ofNat (48 + digit)

/-- The value of a decimal digit character. -/
def digitValue (c : Char) : Nat := c.toNat - 48

/-- A power of ten. -/
def tenTo (places : Nat) : Nat := Nat.pow 10 places

/-- The decimal digits of a number, the highest first; zero has one digit. -/
def digits (n : Nat) : List Char :=
  if n < 10 then [digitChar n] else digits (n / 10) ++ [digitChar (n % 10)]
termination_by n
decreasing_by omega

/-- The number that a digit sequence denotes. The empty sequence denotes zero. -/
def value (text : List Char) : Nat :=
  text.foldl (fun number c => 10 * number + digitValue c) 0

/-- A natural number in decimal. -/
def natural (n : Nat) : String := String.ofList (digits n)

/-- An integer in decimal; only a negative one carries a sign. -/
def integer : Int → String
  | .ofNat n => natural n
  | .negSucc n => String.ofList ('-' :: digits (n + 1))

/-- A text of digits only, and at least one of them, denotes a number. -/
def natural? (text : List Char) : Option Nat :=
  if !text.isEmpty && text.all Char.isDigit then some (value text) else none

/-- An optional sign and digits to the end of the text. -/
def integer? : List Char → Option Int
  | '-' :: rest => (natural? rest).map fun n => -(n : Int)
  | '+' :: rest => (natural? rest).map fun n => (n : Int)
  | text => (natural? text).map fun n => (n : Int)

/-- A value of one hexadecimal digit, in either case. -/
def hexValue? (c : Char) : Option Nat :=
  if c.isDigit then some (c.toNat - 48)
  else if 'a' ≤ c ∧ c ≤ 'f' then some (c.toNat - 87)
  else if 'A' ≤ c ∧ c ≤ 'F' then some (c.toNat - 55)
  else none

/-- The character of a digit below sixteen, in lower case. -/
def hexChar (digit : Nat) : Char :=
  if digit < 10 then Char.ofNat (48 + digit) else Char.ofNat (87 + digit)

/-- The lowest digits of a number in hexadecimal, the given count of them. -/
def hexDigits : (count number : Nat) → List Char
  | 0, _ => []
  | count + 1, number => hexDigits count (number / 16) ++ [hexChar (number % 16)]

end ThemeMotion.Decimal
