import ThemeMotion.Binary
import ThemeMotion.Decimal.Whole

/-!
# The fewest digits that read back

A finite binary number stands for all reals that round to it: the interval between
the midpoints to its two neighbours, with the ends when its pattern is even. The
decimal chosen for it is the multiple of a power of ten in that interval whose
power is largest, and of two such multiples the nearer. When both are equally near,
a tie rule decides.
-/

namespace ThemeMotion.Decimal

/-- The decimal `coefficient · 10 ^ exponent`. -/
structure Scaled where
  coefficient : Nat
  exponent : Int
deriving DecidableEq, Repr

/-- Which of two multiples is taken when both are equally near. -/
inductive Tie where
  /-- The one further from zero. -/
  | up
  /-- The one with an even coefficient. -/
  | even
deriving DecidableEq, Repr

/-- The coefficient above another one is taken at a tie. -/
def Tie.takesUpper (tie : Tie) (below : Nat) : Bool :=
  match tie with
  | .up => true
  | .even => below % 2 = 1

/-- The reals that round to one binary number. Ends and centre count steps of a
fixed size, of which `unit` make one. -/
structure RoundingInterval where
  low : Nat
  centre : Nat
  high : Nat
  closed : Bool
  unit : Nat

namespace RoundingInterval

/-- The interval of a pattern without its sign, in half quanta. -/
def ofPattern (format : BinaryFormat) (pattern : Nat) : RoundingInterval where
  low := format.quanta (pattern - 1) + format.quanta pattern
  centre := 2 * format.quanta pattern
  high := format.quanta pattern + format.quanta (pattern + 1)
  closed := pattern % 2 = 0
  unit := 2 * format.one

/-- A count of steps lies within the interval. -/
def holds (interval : RoundingInterval) (steps : Nat) : Bool :=
  if interval.closed then interval.low ≤ steps && steps ≤ interval.high
  else interval.low < steps && steps < interval.high

/-- The same interval in finer steps. -/
def refine (interval : RoundingInterval) (factor : Nat) : RoundingInterval :=
  { interval with
    low := interval.low * factor
    centre := interval.centre * factor
    high := interval.high * factor
    unit := interval.unit * factor }

/-- Of the two multiples of a step size around the centre, the upper one is taken when
it is nearer, or equally near and the tie rule says so. -/
def prefersUpper (interval : RoundingInterval) (tie : Tie) (step below : Nat) : Bool :=
  let aboveLower := interval.centre - below * step
  let belowUpper := (below + 1) * step - interval.centre
  belowUpper < aboveLower || (belowUpper = aboveLower && tie.takesUpper below)

/-- The multiple of a step size that lies in the interval; when both neighbours of the
centre do, the preferred one. -/
def multiple? (interval : RoundingInterval) (tie : Tie) (step : Nat) : Option Nat :=
  let below := interval.centre / step
  if interval.holds (below * step) then
    if interval.holds ((below + 1) * step) && interval.prefersUpper tie step below
    then some (below + 1) else some below
  else if interval.holds ((below + 1) * step) then some (below + 1)
  else none

/-- The multiple of a power of ten that lies in the interval. -/
def decimal? (interval : RoundingInterval) (tie : Tie) (exponent : Int) : Option Scaled :=
  let found :=
    if 0 ≤ exponent then interval.multiple? tie (interval.unit * tenTo exponent.toNat)
    else (interval.refine (tenTo (-exponent).toNat)).multiple? tie interval.unit
  found.map fun coefficient => ⟨coefficient, exponent⟩

/-- The first hit among falling powers of ten. Twenty powers below the leading digit
are finer than any format, so the search ends with a hit. -/
def search (interval : RoundingInterval) (tie : Tie) :
    (powers : Nat) → (exponent : Int) → Scaled
  | 0, exponent => ⟨0, exponent⟩
  | powers + 1, exponent =>
    match interval.decimal? tie exponent with
    | some decimal => decimal
    | none => interval.search tie powers (exponent - 1)

/-- A power of ten at or above the centre's leading digit, from its binary length:
a bit is worth less than 0.30103 decimal places. -/
def leadingPower (interval : RoundingInterval) : Int :=
  ((interval.centre.log2 : Int) + 1 - interval.unit.log2) * 30103 / 100000 + 1

end RoundingInterval

/-- The shortest decimal of a magnitude pattern of a format; zero has one digit. -/
def shortest (format : BinaryFormat) (tie : Tie) (pattern : Nat) : Scaled :=
  if pattern = 0 then ⟨0, 0⟩
  else
    let interval := RoundingInterval.ofPattern format pattern
    interval.search tie 22 interval.leadingPower

end ThemeMotion.Decimal
