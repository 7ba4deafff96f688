import ThemeMotion.Decimal.Shortest

/-!
# Texts of floating-point values

A style fixes where positional notation ends, whether a whole value shows a fraction,
and how an exponent shows that it is positive. The digits are the fewest that read
back, whatever the style.
-/

namespace ThemeMotion.Decimal

/-- How a floating-point value is laid out. The point stands `place` digits into the
coefficient; notation is positional while that place is within the range. -/
structure FloatStyle where
  positional : Option (Int × Int)
  wholePoint : Bool
  /-- A positive exponent has a plus sign. -/
  plusSign : Bool
  /-- Which of two equally near decimals is written. -/
  tie : Tie

namespace FloatStyle

/-- Displayed values are always positional, and whole ones show no point. -/
def displayed : FloatStyle := ⟨none, false, false, .up⟩

/-- Numbers quoted from a selector are positional from 10^-4 to below 10^16. -/
def quoted : FloatStyle := ⟨some (-3, 16), true, false, .up⟩

/-- Numbers of a stored double are positional from 10^-5 to below 10^16. -/
def storedDouble : FloatStyle := ⟨some (-4, 16), true, true, .even⟩

/-- Numbers of a stored single are positional from 10^-6 to below 10^13. -/
def storedSingle : FloatStyle := ⟨some (-5, 13), true, true, .even⟩

/-- Digits with a point `place` digits in, padded with zeros on either side. -/
def layPositional (style : FloatStyle) (coefficient : List Char) (place : Int) : List Char :=
  if place ≤ 0 then '0' :: '.' :: (List.replicate (-place).toNat '0' ++ coefficient)
  else if place.toNat < coefficient.length then
    coefficient.take place.toNat ++ '.' :: coefficient.drop place.toNat
  else
    coefficient ++ List.replicate (place.toNat - coefficient.length) '0' ++
      (if style.wholePoint then ['.', '0'] else [])

/-- One digit, a point when more follow, and the exponent. -/
def layExponent (style : FloatStyle) (coefficient : List Char) (place : Int) : List Char :=
  let sign := if style.plusSign ∧ 1 ≤ place then ['+'] else []
  let exponent := sign ++ (integer (place - 1)).toList
  match coefficient with
  | [] => 'e' :: exponent
  | [first] => first :: 'e' :: exponent
  | first :: rest => first :: '.' :: (rest ++ 'e' :: exponent)

/-- The layout of a decimal without its sign. -/
def lay (style : FloatStyle) (decimal : Scaled) : List Char :=
  let coefficient := digits decimal.coefficient
  if decimal.coefficient = 0 then style.layPositional coefficient 1
  else
    let place := coefficient.length + decimal.exponent
    match style.positional with
    | none => style.layPositional coefficient place
    | some (first, last) =>
      if first ≤ place ∧ place ≤ last then style.layPositional coefficient place
      else style.layExponent coefficient place

/-- The text of a bit pattern of a format. NaN has no sign. -/
def render (style : FloatStyle) (format : BinaryFormat) (pattern : Nat) : String :=
  let magnitude := pattern % format.signWeight
  let sign := if format.signWeight ≤ pattern then ['-'] else []
  if magnitude < format.infinity then
    String.ofList (sign ++ style.lay (shortest format style.tie magnitude))
  else if magnitude = format.infinity then String.ofList (sign ++ "inf".toList)
  else "NaN"

/-- The text of a double. -/
def double (style : FloatStyle) (x : Float) : String := style.render .double x.toBits.toNat

/-- The text of a single. -/
def single (style : FloatStyle) (x : Float32) : String := style.render .single x.toBits.toNat

end FloatStyle

/-- A finite single with the given count of decimal places; a half goes to the even
neighbour, and a value that rounds to zero has no sign. -/
def fixedSingle? (places : Nat) (x : Float32) : Option String :=
  match BinaryNumber.ofSingle x with
  | .finite negative quanta =>
    let scaled := nearestEven (quanta * tenTo places) BinaryFormat.single.one
    let fraction := digits (scaled % tenTo places)
    some (String.ofList
      ((if negative ∧ scaled ≠ 0 then ['-'] else []) ++ digits (scaled / tenTo places) ++
        '.' :: (List.replicate (places - fraction.length) '0' ++ fraction)))
  | _ => none

end ThemeMotion.Decimal
