import ThemeMotion.Decimal.FloatText
import ThemeMotion.Decimal.Numeral

/-!
# Progress modes

A progress mode shapes how an animation advances. Named modes are plain, eased in
one of ten families and three directions, or a single step; a free mode gives the
two inner control points of a cubic Bézier curve. Names in texts ignore the case of
letters and the separators between words.
-/

namespace ThemeMotion

/-- Where an easing slows down: at the start, at the end, or at both. -/
inductive Direction where
  | into
  | out
  | both
deriving DecidableEq, Repr

/-- The shape of an easing. -/
inductive Family where
  | quad
  | cubic
  | sine
  | quart
  | quint
  | expo
  | circ
  | back
  | elastic
  | bounce
deriving DecidableEq, Repr

/-- The modes that have a name. -/
inductive NamedMode where
  | linear
  | ease
  | plain (direction : Direction)
  | eased (direction : Direction) (family : Family)
  | stepsStart
  | stepsEnd
deriving DecidableEq, Repr

/-- The inner control points of a Bézier curve from (0, 0) to (1, 1). -/
structure ControlPoints where
  x1 : Float32
  y1 : Float32
  x2 : Float32
  y2 : Float32
deriving DecidableEq, Repr

/-- How progress advances over time. -/
inductive ProgressMode where
  | named (mode : NamedMode)
  | cubicBezier (points : ControlPoints)
deriving DecidableEq, Repr

namespace Direction

/-- The words of a direction. -/
def words : Direction → List String
  | .into => ["in"]
  | .out => ["out"]
  | .both => ["in", "out"]

/-- All directions. -/
def all : List Direction := [.into, .out, .both]

end Direction

namespace Family

/-- The word of a family. -/
def word : Family → String
  | .quad => "quad"
  | .cubic => "cubic"
  | .sine => "sine"
  | .quart => "quart"
  | .quint => "quint"
  | .expo => "expo"
  | .circ => "circ"
  | .back => "back"
  | .elastic => "elastic"
  | .bounce => "bounce"

/-- All families. -/
def all : List Family :=
  [.quad, .cubic, .sine, .quart, .quint, .expo, .circ, .back, .elastic, .bounce]

end Family

namespace NamedMode

/-- The words of a mode's name. -/
def words : NamedMode → List String
  | .linear => ["linear"]
  | .ease => ["ease"]
  | .plain direction => "ease" :: direction.words
  | .eased direction family => "ease" :: direction.words ++ [family.word]
  | .stepsStart => ["steps", "start"]
  | .stepsEnd => ["steps", "end"]

/-- The name as theme files write it. -/
def name (mode : NamedMode) : String := "-".intercalate mode.words

/-- The name as stored data write it. -/
def tag (mode : NamedMode) : String := "_".intercalate mode.words

/-- All named modes. -/
def all : List NamedMode :=
  [.linear, .ease] ++ Direction.all.map .plain ++
    (Family.all.flatMap fun family => Direction.all.map fun direction => .eased direction family) ++
    [.stepsStart, .stepsEnd]

/-- The letters of a name: separators dropped, ASCII letters in lower case. -/
def letters (text : List Char) : List Char :=
  Text.lower (text.filter fun c => c != '-' && c != '_')

/-- The mode whose name has the same letters. -/
def ofText? (text : List Char) : Option NamedMode :=
  all.find? fun mode => letters mode.name.toList == letters text

end NamedMode

namespace ProgressMode

/-- The mode of a timeline that names none. -/
def standard : ProgressMode := .named .linear

/-- A coordinate between zero and one. -/
def inUnit (x : Float32) : Bool := 0 ≤ x && x ≤ 1

/-- Four finite coordinates separated by commas, the first and third within the unit
interval so that the curve is a function of time. -/
def points? (text : List Char) : Option ControlPoints :=
  let coordinates := (Text.fields ',' text).map fun field =>
    (Decimal.single? (Text.trim field)).filter isFiniteSingle
  match coordinates with
  | [some x1, some y1, some x2, some y2] =>
    if inUnit x1 && inUnit x2 then some ⟨x1, y1, x2, y2⟩ else none
  | _ => none

/-- The mode that a text names, blanks around it aside. A curve is written in lower
case. -/
def parse? (text : String) : Option ProgressMode :=
  let trimmed := Text.trim text.toList
  match NamedMode.ofText? trimmed with
  | some mode => some (.named mode)
  | none =>
    (Text.dropOpening? "cubic-bezier(".toList trimmed >>= fun inner =>
      Text.dropEnding? [')'] inner >>= points?).map .cubicBezier

/-- The wording of a refusal of a mode text. -/
def unknownMessage (text : String) : String := s!"unknown progress mode '{text}'"

/-- The name of a mode, absent for a free curve. -/
def name? : ProgressMode → Option String
  | .named mode => some mode.name
  | .cubicBezier _ => none

/-- The text of a mode, which reads back. -/
def display : ProgressMode → String
  | .named mode => mode.name
  | .cubicBezier points =>
    let coordinates := [points.x1, points.y1, points.x2, points.y2].map
      Decimal.FloatStyle.displayed.single
    "cubic-bezier(" ++ ", ".intercalate coordinates ++ ")"

end ProgressMode

end ThemeMotion
