/-!
# Binary floating point as whole numbers

Every finite number of a binary format is a whole number of the format's smallest
step, its quantum. Decoding gives that number of quanta; rounding takes a quotient
of natural numbers, measured in quanta, to the nearest number of the format, a tie
going to the even neighbour. Since the bit patterns of non-negative numbers are in
the order of the numbers, a carry out of the fraction lands in the exponent field
without a case of its own.

Signed zeros are kept apart and there is one NaN.
-/

namespace ThemeMotion

/-- A power of two. -/
def twoTo (places : Nat) : Nat := Nat.pow 2 places

/-- A binary interchange format. The fraction field leaves out the leading bit, and
the largest exponent field is reserved for infinity and NaN. -/
structure BinaryFormat where
  fractionBits : Nat
  exponentBits : Nat
deriving DecidableEq, Repr

namespace BinaryFormat

/-- The 32-bit format. -/
def single : BinaryFormat := ⟨23, 8⟩

/-- The 64-bit format. -/
def double : BinaryFormat := ⟨52, 11⟩

/-- The pattern of positive infinity, above those of all finite numbers. -/
def infinity (format : BinaryFormat) : Nat :=
  (twoTo format.exponentBits - 1) * twoTo format.fractionBits

/-- The weight of the sign bit. -/
def signWeight (format : BinaryFormat) : Nat :=
  twoTo (format.exponentBits + format.fractionBits)

/-- The number of quanta in one. It is a power of two for either format: 2^149 and
2^1074. -/
def one (format : BinaryFormat) : Nat :=
  twoTo (twoTo (format.exponentBits - 1) - 2 + format.fractionBits)

/-- The quanta that a pattern without its sign stands for, as if the exponent
field had no reserved value. -/
def quanta (format : BinaryFormat) (pattern : Nat) : Nat :=
  let field := pattern / twoTo format.fractionBits
  let fraction := pattern % twoTo format.fractionBits
  if field = 0 then fraction
  else (twoTo format.fractionBits + fraction) * twoTo (field - 1)

end BinaryFormat

/-- The natural number nearest to a quotient; a half goes to the even neighbour. -/
def nearestEven (numerator denominator : Nat) : Nat :=
  let floor := numerator / denominator
  let remainder := numerator % denominator
  if 2 * remainder < denominator then floor
  else if 2 * remainder > denominator then floor + 1
  else if floor % 2 = 0 then floor else floor + 1

/-- The pattern of the number nearest to a quotient of quanta; a quotient past the
largest finite number by half a step or more gives infinity. -/
def BinaryFormat.nearest (format : BinaryFormat) (numerator denominator : Nat) : Nat :=
  let shift := (numerator / denominator).log2 - format.fractionBits
  let mantissa := nearestEven numerator (denominator * twoTo shift)
  min (shift * twoTo format.fractionBits + mantissa) format.infinity

/-- A number of a binary format, with finite magnitudes in quanta. -/
inductive BinaryNumber where
  | nan
  | infinite (negative : Bool)
  | finite (negative : Bool) (quanta : Nat)
deriving DecidableEq, Repr

namespace BinaryFormat

/-- The number of a bit pattern. -/
def decode (format : BinaryFormat) (pattern : Nat) : BinaryNumber :=
  let negative := decide (format.signWeight ≤ pattern)
  let magnitude := pattern % format.signWeight
  if magnitude < format.infinity then .finite negative (format.quanta magnitude)
  else if magnitude = format.infinity then .infinite negative
  else .nan

/-- The bit pattern nearest to a number whose magnitude is given in quanta of
another format. NaN has the pattern with the highest fraction bit. -/
def encode (format source : BinaryFormat) : BinaryNumber → Nat
  | .nan => format.infinity + twoTo (format.fractionBits - 1)
  | .infinite negative => (if negative then format.signWeight else 0) + format.infinity
  | .finite negative quanta =>
    (if negative then format.signWeight else 0) +
      format.nearest (quanta * format.one) source.one

end BinaryFormat

namespace BinaryNumber

/-- The number that a double holds. -/
def ofDouble (x : Float) : BinaryNumber := BinaryFormat.double.decode x.toBits.toNat

/-- The number that a single holds. -/
def ofSingle (x : Float32) : BinaryNumber := BinaryFormat.single.decode x.toBits.toNat

/-- The double nearest to a number whose magnitude counts quanta of a format. -/
def toDouble (number : BinaryNumber) (source : BinaryFormat) : Float :=
  Float.ofBits (UInt64.ofNat (BinaryFormat.double.encode source number))

/-- The single nearest to a number whose magnitude counts quanta of a format. -/
def toSingle (number : BinaryNumber) (source : BinaryFormat) : Float32 :=
  Float32.ofBits (UInt32.ofNat (BinaryFormat.single.encode source number))

end BinaryNumber

/-- The single nearest to a double. A double beyond the range becomes infinite. -/
def narrow (x : Float) : Float32 := (BinaryNumber.ofDouble x).toSingle .double

/-- The double equal to a single. -/
def widen (x : Float32) : Float := (BinaryNumber.ofSingle x).toDouble .single

/-- The double nearest to an integer. -/
def doubleOfInt (n : Int) : Float :=
  (BinaryNumber.finite (decide (n < 0)) (n.natAbs * BinaryFormat.double.one)).toDouble .double

/-- The single nearest to an integer. -/
def singleOfInt (n : Int) : Float32 :=
  (BinaryNumber.finite (decide (n < 0)) (n.natAbs * BinaryFormat.double.one)).toSingle .double

/-- A double is finite when it is neither infinite nor NaN. -/
def isFiniteDouble (x : Float) : Bool :=
  match BinaryNumber.ofDouble x with
  | .finite _ _ => true
  | _ => false

/-- A single is finite when it is neither infinite nor NaN. -/
def isFiniteSingle (x : Float32) : Bool :=
  match BinaryNumber.ofSingle x with
  | .finite _ _ => true
  | _ => false

/-- A double is zero, of either sign. -/
def isZeroDouble (x : Float) : Bool :=
  match BinaryNumber.ofDouble x with
  | .finite _ quanta => quanta = 0
  | _ => false

/-- The integer part of a finite double, cut toward zero. -/
def integerPart? (x : Float) : Option Int :=
  match BinaryNumber.ofDouble x with
  | .finite negative quanta =>
    let whole := quanta / BinaryFormat.double.one
    some (if negative then -(whole : Int) else whole)
  | _ => none

/-- The exact remainder of a division of finite doubles, with the sign of the
dividend; NaN when the dividend is not finite or the divisor is zero. -/
def remainder (dividend divisor : Float) : Float :=
  match BinaryNumber.ofDouble dividend, BinaryNumber.ofDouble divisor with
  | .finite negative quanta, .finite _ step =>
    if step = 0 then BinaryNumber.nan.toDouble .double
    else (BinaryNumber.finite negative (quanta % step)).toDouble .double
  | .finite _ _, .infinite _ => dividend
  | _, _ => BinaryNumber.nan.toDouble .double

end ThemeMotion
