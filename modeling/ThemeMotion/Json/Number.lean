import ThemeMotion.Binary
import ThemeMotion.Decimal.Numeral
import ThemeMotion.Word

/-!
# JSON numbers

A number is written with a whole part that has no idle zero in front, an optional
fraction and an optional exponent. A whole number that a 64-bit word holds is taken
exactly. Every other number becomes a double: as many leading digits as an unsigned
word holds are taken as a whole, and one multiplication or division by a power of ten
follows, so the result may miss the nearest double by a little. A number beyond the
doubles is refused.
-/

namespace ThemeMotion.Json

/-- The digits in front of a text. -/
def splitDigits (text : List Char) : List Char × List Char :=
  (text.takeWhile Char.isDigit, text.dropWhile Char.isDigit)

/-- At least one digit in front of a text. -/
def someDigits? (text : List Char) : Option (List Char × List Char) :=
  let (digits, rest) := splitDigits text
  if digits.isEmpty then none else some (digits, rest)

/-- The whole part of a number; only zero itself begins with a zero. -/
def wholePart? (text : List Char) : Option (List Char × List Char) :=
  match someDigits? text with
  | some ('0' :: _ :: _, _) => none
  | found => found

/-- The parts of a written number. -/
structure NumberParts where
  negative : Bool
  whole : List Char
  /-- The digits after the point; none when there is no point. -/
  fraction : List Char
  /-- The sign and the digits of the exponent. -/
  exponent : Option (Bool × List Char)
deriving DecidableEq, Repr

/-- The fraction in front of a text; without a point it is empty. -/
def fractionPart? : List Char → Option (List Char × List Char)
  | '.' :: rest => someDigits? rest
  | text => some ([], text)

/-- The sign of an exponent. -/
def exponentSign : List Char → Bool × List Char
  | '-' :: rest => (true, rest)
  | '+' :: rest => (false, rest)
  | text => (false, text)

/-- The exponent in front of a text, when a letter announces one. -/
def exponentPart? : List Char → Option (Option (Bool × List Char) × List Char)
  | [] => some (none, [])
  | c :: rest =>
    if c = 'e' ∨ c = 'E' then
      let (negative, digits) := exponentSign rest
      (someDigits? digits).map fun (digits, rest) => (some (negative, digits), rest)
    else some (none, c :: rest)

/-- The number without its sign in front of a text. -/
def unsignedParts? (negative : Bool) (text : List Char) : Option (NumberParts × List Char) := do
  let (whole, afterWhole) ← wholePart? text
  let (fraction, afterFraction) ← fractionPart? afterWhole
  let (exponent, rest) ← exponentPart? afterFraction
  return (⟨negative, whole, fraction, exponent⟩, rest)

/-- The number in front of a text. -/
def numberParts? : List Char → Option (NumberParts × List Char)
  | '-' :: rest => unsignedParts? true rest
  | text => unsignedParts? false text

/-- The number in front of a text as it is written, and what follows it. -/
def lexeme? (text : List Char) : Option (List Char × List Char) :=
  (numberParts? text).map fun (_, rest) => (text.take (text.length - rest.length), rest)

/-- What a number denotes. -/
inductive Number where
  /-- A whole number that fits a signed or an unsigned 64-bit word. -/
  | whole (value : Int)
  | real (value : Float)
deriving DecidableEq, Repr

/-- The largest unsigned 64-bit word. -/
def largestWord : Nat := 0xFFFFFFFFFFFFFFFF

/-- The magnitude of the least signed 64-bit word. -/
def largestNegative : Nat := 0x8000000000000000

/-- Leading digits that are taken, and the digits left. -/
def takeDigits (significand : Nat) : List Char → Nat × List Char
  | [] => (significand, [])
  | c :: rest =>
    let next := 10 * significand + Decimal.digitValue c
    if next ≤ largestWord then takeDigits next rest else (significand, c :: rest)

/-- The double of a power of ten. -/
def powerOfTen (exponent : Nat) : Float := (Decimal.Numeral.finite false 1 exponent).toDouble

/-- The largest power of ten that is a double. -/
def largestPower : Nat := 308

/-- A double divided by a power of ten, in more than one step when the power is no
double. -/
def sink (x : Float) (places : Nat) : Float :=
  if places ≤ largestPower then x / powerOfTen places
  else if isZeroDouble x then x
  else sink (x / powerOfTen largestPower) (places - largestPower)
termination_by places
decreasing_by simp only [largestPower] at *; omega

/-- A double multiplied by a power of ten, unless that leads beyond the doubles. -/
def raise? (x : Float) (places : Nat) : Option Float :=
  if places ≤ largestPower then
    let product := x * powerOfTen places
    if isFiniteDouble product then some product else none
  else if isZeroDouble x then some x
  else none

/-- The double of a significand and an exponent. -/
def scaled? (significand : Nat) (exponent : Int) : Option Float :=
  if 0 ≤ exponent then raise? (doubleOfInt significand) exponent.toNat
  else some (sink (doubleOfInt significand) (-exponent).toNat)

namespace NumberParts

/-- The written exponent. -/
def power (parts : NumberParts) : Int :=
  match parts.exponent with
  | none => 0
  | some (negative, digits) =>
    if negative then -(Decimal.value digits : Int) else Decimal.value digits

/-- The double that the digits denote. -/
def real? (parts : NumberParts) : Option Float :=
  let (leading, dropped) := takeDigits 0 parts.whole
  let (significand, unused) := takeDigits leading parts.fraction
  let places := parts.fraction.length - unused.length
  (scaled? significand (dropped.length - places + parts.power)).map fun x =>
    if parts.negative then -x else x

/-- The exact whole number, when there is neither fraction nor exponent and a word
holds it. Zero with a minus sign is none. -/
def whole? (parts : NumberParts) : Option Int :=
  if !parts.fraction.isEmpty || parts.exponent.isSome then none
  else
    let magnitude := Decimal.value parts.whole
    if parts.negative then
      if 0 < magnitude ∧ magnitude ≤ largestNegative then some (-(magnitude : Int)) else none
    else if magnitude ≤ largestWord then some magnitude else none

/-- What the parts denote. -/
def number? (parts : NumberParts) : Option Number :=
  match parts.whole? with
  | some value => some (.whole value)
  | none => parts.real?.map .real

end NumberParts

/-- What a written number denotes. -/
def number? (lexeme : List Char) : Option Number :=
  numberParts? lexeme >>= fun (parts, _) => parts.number?

end ThemeMotion.Json
