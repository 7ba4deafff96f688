import ThemeMotion.Css.Name
import ThemeMotion.Css.Token
import ThemeMotion.Word

/-!
# Numbers in CSS text

A number is an optional sign, digits with an optional fraction, and an optional
exponent. Its value is computed digit by digit in doubles. A number without
fraction and exponent also has an integer, held within 32 bits.
-/

namespace ThemeMotion.Css

/-- The sign at the front of a text: whether it is negative, when one is written. -/
def splitSign : List Char → Option Bool × List Char
  | '-' :: rest => (some true, rest)
  | '+' :: rest => (some false, rest)
  | text => (none, text)

/-- The text begins with a number. -/
def startsNumber (text : List Char) : Bool := startsFraction (splitSign text).2

/-- The digits at the front of a text and what follows them. -/
def splitDigits (text : List Char) : List Char × List Char :=
  (text.takeWhile Char.isDigit, text.dropWhile Char.isDigit)

/-- The digits after a point; a point without a digit belongs to what follows. -/
def splitFraction : List Char → Option (List Char) × List Char
  | '.' :: rest =>
    if startsDigit rest then (some (splitDigits rest).1, (splitDigits rest).2)
    else (none, '.' :: rest)
  | text => (none, text)

/-- The sign and digits of an exponent; a letter that no digit follows belongs to the
unit. -/
def splitExponent : List Char → Option (Bool × List Char) × List Char
  | [] => (none, [])
  | c :: rest =>
    let (sign, digits) := splitSign rest
    if (c = 'e' ∨ c = 'E') ∧ startsDigit digits then
      (some (sign == some true, (splitDigits digits).1), (splitDigits digits).2)
    else (none, c :: rest)

/-- Digits as a double, accumulated from the left. -/
def accumulate (digits : List Char) : Float :=
  digits.foldl (fun number c => number * 10 + doubleOfDigit c) 0
where
  /-- The double of one digit. -/
  doubleOfDigit (c : Char) : Float := Float.ofNat (Decimal.digitValue c)

/-- The fraction of digits, accumulated from the left. -/
def accumulateFraction (digits : List Char) : Float :=
  (digits.foldl
    (fun (sum, factor) c => (sum + Float.ofNat (Decimal.digitValue c) * factor, factor * 0.1))
    ((0 : Float), (0.1 : Float))).1

/-- The number at the front of a text and what follows it. -/
def numeric (text : List Char) : Numeric × List Char :=
  let (sign, unsigned) := splitSign text
  let (whole, afterWhole) := splitDigits unsigned
  let (fraction, afterFraction) := splitFraction afterWhole
  let (exponent, after) := splitExponent afterFraction
  let negative := sign == some true
  let magnitude := accumulate whole + accumulateFraction (fraction.getD [])
  let signed := (if negative then -1 else 1) * magnitude
  let value := match exponent with
    | none => signed
    | some (negativeExponent, digits) =>
      signed * Float.pow 10 ((if negativeExponent then -1 else 1) * accumulate digits)
  let integer :=
    if fraction.isNone ∧ exponent.isNone then
      let size : Int := Decimal.value whole
      some (Word.heldSigned (if negative then -size else size))
    else none
  (⟨sign.isSome, value, integer⟩, after)

/-- Dropping leading digits does not lengthen a text. -/
theorem splitDigits_length_le (text : List Char) :
    (splitDigits text).2.length ≤ text.length := by
  simpa [splitDigits] using (List.dropWhile_suffix Char.isDigit (l := text)).length_le

/-- Leading digits take at least one character when the text begins with one. -/
theorem splitDigits_length_lt (text : List Char) (opened : startsDigit text = true) :
    (splitDigits text).2.length < text.length := by
  cases text with
  | nil => simp [startsDigit] at opened
  | cons c rest =>
    have shorter := splitDigits_length_le rest
    simp only [startsDigit] at opened
    simp only [splitDigits, List.dropWhile_cons, opened, ↓reduceIte, List.length_cons] at *
    omega

/-- What follows a sign is no longer than the text. -/
theorem splitSign_length_le (text : List Char) : (splitSign text).2.length ≤ text.length := by
  fun_cases splitSign text <;> simp

/-- What follows a fraction is no longer than the text. -/
theorem splitFraction_length_le (text : List Char) :
    (splitFraction text).2.length ≤ text.length := by
  fun_cases splitFraction text <;> grind [splitDigits_length_le]

/-- What follows an exponent is no longer than the text. -/
theorem splitExponent_length_le (text : List Char) :
    (splitExponent text).2.length ≤ text.length := by
  cases text with
  | nil => simp [splitExponent]
  | cons c rest =>
    have signed := splitSign_length_le rest
    have digits := splitDigits_length_le (splitSign rest).2
    simp only [splitExponent]
    split
    · simp only [List.length_cons]
      omega
    · simp

/-- A number takes at least one character. -/
theorem numeric_length_lt (text : List Char) (opened : startsNumber text = true) :
    (numeric text).2.length < text.length := by
  have signed := splitSign_length_le text
  simp only [numeric, startsNumber] at *
  have exponent := splitExponent_length_le
    (splitFraction (splitDigits (splitSign text).2).2).2
  have fraction := splitFraction_length_le (splitDigits (splitSign text).2).2
  have digits := splitDigits_length_le (splitSign text).2
  suffices (splitFraction (splitDigits (splitSign text).2).2).2.length <
      (splitSign text).2.length by omega
  generalize (splitSign text).2 = unsigned at *
  by_cases whole : startsDigit unsigned
  · have shorter := splitDigits_length_lt unsigned whole
    omega
  · unfold startsFraction at opened
    split at opened
    · next rest =>
      have none : splitDigits ('.' :: rest) = ([], '.' :: rest) := by
        simp [splitDigits]
      have shorter := splitDigits_length_lt rest opened
      simp only [none, splitFraction, opened, ↓reduceIte, List.length_cons]
      omega
    · exact absurd opened whole

end ThemeMotion.Css
