import ThemeMotion.Binary
import ThemeMotion.Decimal.Whole
import ThemeMotion.Text.Fields

/-!
# Decimal numerals of floating-point values

A numeral is an optional sign followed by a word for infinity or NaN, or by digits
with an optional point and an optional exponent. It denotes the nearest number of
a binary format. Exponents are unbounded in the text; a numeral far outside every
format is recognised by its leading digit's position before any power is formed.
-/

namespace ThemeMotion.Decimal

/-- What a numeral says: `mantissa · 10 ^ exponent`, or a number without digits. -/
inductive Numeral where
  | nan
  | infinite (negative : Bool)
  | finite (negative : Bool) (mantissa : Nat) (exponent : Int)
deriving DecidableEq, Repr

namespace Numeral

/-- The exponent after the mantissa's digits: absent, or a letter and an integer. -/
def exponent? : List Char → Option Int
  | [] => some 0
  | c :: rest => if c = 'e' ∨ c = 'E' then integer? rest else none

/-- Digits, an optional point with further digits, and an optional exponent. At
least one digit stands before the exponent. -/
def unsigned? (negative : Bool) (text : List Char) : Option Numeral :=
  let whole := text.takeWhile Char.isDigit
  let afterWhole := text.dropWhile Char.isDigit
  let (fraction, afterFraction) :=
    match afterWhole with
    | '.' :: rest => (rest.takeWhile Char.isDigit, rest.dropWhile Char.isDigit)
    | _ => ([], afterWhole)
  if whole.isEmpty && fraction.isEmpty then none
  else (exponent? afterFraction).map fun exponent =>
    .finite negative (value (whole ++ fraction)) (exponent - fraction.length)

/-- The number after the sign. The words ignore the case of letters. -/
def magnitude? (negative : Bool) (text : List Char) : Option Numeral :=
  let folded := Text.lower text
  if folded = "nan".toList then some .nan
  else if folded = "inf".toList ∨ folded = "infinity".toList then some (.infinite negative)
  else unsigned? negative text

/-- Reads a numeral that fills the whole text. -/
def parse? : List Char → Option Numeral
  | '-' :: rest => magnitude? true rest
  | '+' :: rest => magnitude? false rest
  | text => magnitude? false text

/-- No power of ten beyond this one matters: the formats reach from below 10^-323 to
below 10^309. -/
def farExponent : Int := 400

/-- The same number in quanta of a format, rounded to a multiple of that quantum by
the format's own rule. The position of the leading digit decides about numerals
beyond the formats. -/
def pattern (format : BinaryFormat) : Numeral → Nat
  | .nan => format.encode format .nan
  | .infinite negative => format.encode format (.infinite negative)
  | .finite negative mantissa exponent =>
    let sign := if negative then format.signWeight else 0
    let leading := (digits mantissa).length + exponent
    if mantissa = 0 ∨ leading < -farExponent then sign
    else if farExponent < leading then sign + format.infinity
    else if 0 ≤ exponent then
      sign + format.nearest (mantissa * tenTo exponent.toNat * format.one) 1
    else
      sign + format.nearest (mantissa * format.one) (tenTo (-exponent).toNat)

/-- The double nearest to a numeral. -/
def toDouble (numeral : Numeral) : Float :=
  Float.ofBits (UInt64.ofNat (numeral.pattern .double))

/-- The single nearest to a numeral. -/
def toSingle (numeral : Numeral) : Float32 :=
  Float32.ofBits (UInt32.ofNat (numeral.pattern .single))

end Numeral

/-- The double that a numeral denotes. -/
def double? (text : List Char) : Option Float := (Numeral.parse? text).map Numeral.toDouble

/-- The single that a numeral denotes. -/
def single? (text : List Char) : Option Float32 := (Numeral.parse? text).map Numeral.toSingle

end ThemeMotion.Decimal
