import ThemeMotion.Progress.Basic

/-!
# Progress curves

Each mode maps linear progress between zero and one to eased progress. All steps
are taken in single precision in the order written here, since rounding makes the
order visible. A Bézier curve is solved for its parameter by at most eight steps of
Newton's method.
-/

namespace ThemeMotion

namespace Curve

/-- Half a turn in radians. -/
def halfTurn : Float32 := Float32.ofBits 0x40490FDB

/-- A quarter turn in radians. -/
def quarterTurn : Float32 := Float32.ofBits 0x3FC90FDB

/-- Progress held between zero and one; NaN and negative zero stay. -/
def clamp (t : Float32) : Float32 := if t < 0 then 0 else if 1 < t then 1 else t

/-- The second power. -/
def square (x : Float32) : Float32 := x * x

/-- The third power. -/
def cube (x : Float32) : Float32 := x * (x * x)

/-- The fourth power, as the square of a square. -/
def fourth (x : Float32) : Float32 := (x * x) * (x * x)

/-- The fifth power. -/
def fifth (x : Float32) : Float32 := x * ((x * x) * (x * x))

/-- A power of two with a real exponent. -/
def powerOfTwo (x : Float32) : Float32 := Float32.pow 2 x

/-- One coordinate of a curve with ends 0 and 1 and inner controls `p1` and `p2`. -/
def axis (p1 p2 s : Float32) : Float32 :=
  let inverse := 1 - s
  3 * inverse * inverse * s * p1 + 3 * inverse * s * s * p2 + s * s * s

/-- The derivative of `axis` by its parameter. -/
def slope (p1 p2 s : Float32) : Float32 :=
  let inverse := 1 - s
  3 * inverse * inverse * p1 + 6 * inverse * s * (p2 - p1) + 3 * s * s * (1 - p2)

/-- Errors and slopes below this bound end the search. -/
def tolerance : Float32 := 1e-6

/-- The parameter at which a curve reaches a horizontal position, from a first guess
and within the given number of steps. -/
def solve (x1 x2 position : Float32) : (steps : Nat) → (guess : Float32) → Float32
  | 0, guess => guess
  | steps + 1, guess =>
    let error := axis x1 x2 guess - position
    if error.abs < tolerance then guess
    else
      let descent := slope x1 x2 guess
      if descent.abs < tolerance then guess
      else solve x1 x2 position steps (clamp (guess - error / descent))

/-- The height of a curve at a horizontal position. -/
def bezier (points : ControlPoints) (position : Float32) : Float32 :=
  if position ≤ 0 then 0
  else if 1 ≤ position then 1
  else axis points.y1 points.y2 (solve points.x1 points.x2 position 8 position)

/-- The overshoot of the back family. -/
def overshoot : Float32 := 1.70158

/-- The overshoot when both ends pull back. -/
def doubleOvershoot : Float32 := overshoot * 1.525

/-- The angular speed of the elastic family. -/
def elasticSpeed : Float32 := 2 * halfTurn / 3

/-- The angular speed when both ends swing. -/
def doubleElasticSpeed : Float32 := 2 * halfTurn / 4.5

/-- Four parabolas of falling height, ending at one. -/
def bounceOut (t : Float32) : Float32 :=
  let steepness : Float32 := 7.5625
  let width : Float32 := 2.75
  if t < 1 / width then steepness * t * t
  else if t < 2 / width then
    let u := t - 1.5 / width
    steepness * u * u + 0.75
  else if t < 2.5 / width then
    let u := t - 2.25 / width
    steepness * u * u + 0.9375
  else
    let u := t - 2.625 / width
    steepness * u * u + 0.984375

/-- Second-degree easing. -/
def quad (t : Float32) : Direction → Float32
  | .into => t * t
  | .out => t * (2 - t)
  | .both => if t < 0.5 then 2 * t * t else -1 + (4 - 2 * t) * t

/-- Third-degree easing. -/
def cubic (t : Float32) : Direction → Float32
  | .into => t * t * t
  | .out =>
    let u := t - 1
    u * u * u + 1
  | .both =>
    if t < 0.5 then 4 * t * t * t
    else
      let u := 2 * t - 2
      0.5 * u * u * u + 1

/-- Easing along a quarter or half of a wave. -/
def sine (t : Float32) : Direction → Float32
  | .into => 1 - (t * quarterTurn).cos
  | .out => (t * quarterTurn).sin
  | .both => -((halfTurn * t).cos - 1) / 2

/-- Fourth-degree easing. -/
def quart (t : Float32) : Direction → Float32
  | .into => fourth t
  | .out => 1 - fourth (1 - t)
  | .both => if t < 0.5 then 8 * fourth t else 1 - fourth (-2 * t + 2) / 2

/-- Fifth-degree easing. -/
def quint (t : Float32) : Direction → Float32
  | .into => fifth t
  | .out => 1 - fifth (1 - t)
  | .both => if t < 0.5 then 16 * fifth t else 1 - fifth (-2 * t + 2) / 2

/-- Exponential easing, exact at both ends. -/
def expo (t : Float32) : Direction → Float32
  | .into => if t ≤ 0 then 0 else powerOfTwo (10 * t - 10)
  | .out => if 1 ≤ t then 1 else 1 - powerOfTwo (-10 * t)
  | .both =>
    if t ≤ 0 ∨ 1 ≤ t then t
    else if t < 0.5 then powerOfTwo (20 * t - 10) / 2
    else (2 - powerOfTwo (-20 * t + 10)) / 2

/-- Circular easing. -/
def circ (t : Float32) : Direction → Float32
  | .into => 1 - (1 - t * t).sqrt
  | .out => (1 - square (t - 1)).sqrt
  | .both =>
    if t < 0.5 then (1 - (1 - square (2 * t)).sqrt) / 2
    else ((1 - square (-2 * t + 2)).sqrt + 1) / 2

/-- Easing that pulls back beyond its ends. -/
def back (t : Float32) : Direction → Float32
  | .into => (overshoot + 1) * cube t - overshoot * t * t
  | .out => 1 + (overshoot + 1) * cube (t - 1) + overshoot * square (t - 1)
  | .both =>
    if t < 0.5 then
      square (2 * t) * ((doubleOvershoot + 1) * 2 * t - doubleOvershoot) / 2
    else
      (square (2 * t - 2) * ((doubleOvershoot + 1) * (2 * t - 2) + doubleOvershoot) + 2) / 2

/-- Easing that swings around its ends, exact at both. -/
def elastic (t : Float32) (direction : Direction) : Float32 :=
  if t ≤ 0 ∨ 1 ≤ t then t
  else match direction with
    | .into => -(powerOfTwo (10 * t - 10)) * ((10 * t - 10.75) * elasticSpeed).sin
    | .out => powerOfTwo (-10 * t) * ((10 * t - 0.75) * elasticSpeed).sin + 1
    | .both =>
      if t < 0.5 then
        -(powerOfTwo (20 * t - 10) * ((20 * t - 11.125) * doubleElasticSpeed).sin) / 2
      else
        powerOfTwo (-20 * t + 10) * ((20 * t - 11.125) * doubleElasticSpeed).sin / 2 + 1

/-- Easing that bounces off its ends. -/
def bounce (t : Float32) : Direction → Float32
  | .into => 1 - bounceOut (1 - t)
  | .out => bounceOut t
  | .both =>
    if t < 0.5 then (1 - bounceOut (1 - 2 * t)) / 2 else (1 + bounceOut (2 * t - 1)) / 2

/-- The curve of a family. -/
def ofFamily : Family → Float32 → Direction → Float32
  | .quad => quad
  | .cubic => cubic
  | .sine => sine
  | .quart => quart
  | .quint => quint
  | .expo => expo
  | .circ => circ
  | .back => back
  | .elastic => elastic
  | .bounce => bounce

/-- The curve of a named mode. -/
def ofNamed : NamedMode → Float32 → Float32
  | .linear, t => t
  | .ease, t => bezier ⟨0.25, 0.1, 0.25, 1⟩ t
  | .plain .into, t => bezier ⟨0.42, 0, 1, 1⟩ t
  | .plain .out, t => bezier ⟨0, 0, 0.58, 1⟩ t
  | .plain .both, t => bezier ⟨0.42, 0, 0.58, 1⟩ t
  | .eased direction family, t => ofFamily family t direction
  | .stepsStart, t => if 0 < t then 1 else 0
  | .stepsEnd, t => if 1 ≤ t then 1 else 0

end Curve

/-- Eased progress at a time, which is held between zero and one first. -/
def ProgressMode.evaluate (mode : ProgressMode) (time : Float32) : Float32 :=
  let t := Curve.clamp time
  match mode with
  | .named known => Curve.ofNamed known t
  | .cubicBezier points => Curve.bezier points t

/-- The last digits of a mode's curve are not settled when the curve passes through
a transcendental function. -/
def ProgressMode.isTranscendental : ProgressMode → Bool
  | .named (.eased _ .sine) => true
  | .named (.eased _ .expo) => true
  | .named (.eased _ .elastic) => true
  | _ => false

end ThemeMotion
