import ThemeMotion.Json.Reader
import ThemeMotion.Json.Writer
import ThemeMotion.Stored.Record
import ThemeMotion.Theme.Trigger
import ThemeMotion.Timeline
import ThemeMotion.Value.Basic

/-!
# Stored values, curves, timelines and origins

A value is a record tagged with its kind, and so is a curve. A timeline is a plain
record, and an origin is a word. Floating-point numbers are written with the fewest
digits that read back in their own width; one that is not finite is written as null
and does not read back.
-/

namespace ThemeMotion

namespace Stored

/-- A whole number. -/
def ofWhole (n : Int) : Json := .number (Decimal.integer n).toList

/-- A double. -/
def ofDouble (x : Float) : Json :=
  if isFiniteDouble x then .number (Decimal.FloatStyle.storedDouble.double x).toList else .null

/-- A single. -/
def ofSingle (x : Float32) : Json :=
  if isFiniteSingle x then .number (Decimal.FloatStyle.storedSingle.single x).toList else .null

end Stored

open Stored

namespace Value

/-- The field of a plain value. -/
def valueField : String := "value"

/-- The field that names the type of an enumeration or a flag set. -/
def typeField : String := "type_name"

/-- The field of the channels of a colour. -/
def channelsField : String := "rgba"

/-- A plain value of a kind. -/
def stored (tag : String) (value : Json) : Json := ofTagged tag [(valueField, value)]

/-- A word with the name of its type. -/
def storedMember (tag typeName : String) (value : Int) : Json :=
  ofTagged tag [(typeField, Json.ofText typeName), (valueField, ofWhole value)]

/-- The stored form of a value. -/
def toJson : Value → Json
  | .bool value => stored "bool" (.boolean value)
  | .int value => stored "int" (ofWhole value.toInt)
  | .uint value => stored "u_int" (ofWhole value.toNat)
  | .float value => stored "float" (ofSingle value)
  | .double value => stored "double" (ofDouble value)
  | .string value => stored "string" (Json.ofText value)
  | .color value =>
    ofTagged "color" [(channelsField,
      .array ([value.red, value.green, value.blue, value.alpha].map ofSingle))]
  | .enumeration typeName value => storedMember "enum" typeName value.toInt
  | .flags typeName value => storedMember "flags" typeName value.toNat

/-- The one field of a record. -/
def only? (name : String) (record : Json) : Option Json :=
  match record? [name] record with
  | some [value] => some value
  | _ => none

/-- A word with the name of its type. -/
def member? (record : Json) : Option (String × Int) :=
  match record? [typeField, valueField] record with
  | some [typeName, value] => do return (← text? typeName, ← whole? value)
  | _ => none

/-- A colour of four channels. -/
def channels? : Json → Option Color
  | .array [red, green, blue, alpha] => do
    return ⟨← single? red, ← single? green, ← single? blue, ← single? alpha⟩
  | _ => none

/-- The value of a kind. -/
def ofRecord? (tag : String) (record : Json) : Option Value :=
  match tag with
  | "bool" => (only? valueField record >>= boolean?).map .bool
  | "int" => (only? valueField record >>= whole? >>= Word.int64?).map .int
  | "u_int" => (only? valueField record >>= whole? >>= Word.uint64?).map .uint
  | "float" => (only? valueField record >>= single?).map .float
  | "double" => (only? valueField record >>= double?).map .double
  | "string" => (only? valueField record >>= text?).map .string
  | "color" => (only? channelsField record >>= channels?).map .color
  | "enum" => do
    let (typeName, value) ← member? record
    return .enumeration typeName (← Word.int32? value)
  | "flags" => do
    let (typeName, value) ← member? record
    return .flags typeName (← Word.uint32? value)
  | _ => none

/-- The value of a stored form. -/
def ofJson? (json : Json) : Option Value :=
  if isSound depthLimit json then tagged? json >>= fun (tag, record) => ofRecord? tag record
  else none

end Value

namespace ProgressMode

/-- The kind of a free curve. -/
def freeTag : String := "cubic_bezier"

/-- The fields of a free curve. -/
def pointFields : List String := ["x1", "y1", "x2", "y2"]

/-- The stored form of a curve. -/
def toJson : ProgressMode → Json
  | .named mode => ofTagged mode.tag []
  | .cubicBezier points =>
    ofTagged freeTag (pointFields.zip
      ([points.x1, points.y1, points.x2, points.y2].map ofSingle))

/-- The curve of a kind. -/
def ofRecord? (tag : String) (record : Json) : Option ProgressMode :=
  if tag = freeTag then
    match record? pointFields record with
    | some [x1, y1, x2, y2] => do
      return .cubicBezier ⟨← single? x1, ← single? y1, ← single? x2, ← single? y2⟩
    | _ => none
  else if isEmptyRecord record then
    (NamedMode.all.find? (·.tag == tag)).map .named
  else none

/-- The curve of a stored form that is nested no deeper than a bound. -/
def ofJson? (depth : Nat) (json : Json) : Option ProgressMode :=
  if isSound depth json then tagged? json >>= fun (tag, record) => ofRecord? tag record
  else none

end ProgressMode

namespace Timeline

/-- The fields of a timeline. -/
def fieldNames : List String := ["delay_ms", "duration_ms", "mode", "repeat"]

/-- The stored form of a timeline. -/
def toJson (timeline : Timeline) : Json :=
  Json.ofMembers (fieldNames.zip
    [ofWhole timeline.delay.toNat, ofWhole timeline.duration.toNat, timeline.mode.toJson,
      ofWhole timeline.repetition.toInt])

/-- The timeline of a stored form. What is not asked for is not looked at. -/
def ofJson? (json : Json) : Option Timeline :=
  match hasSoundKeys json, record? fieldNames json with
  | true, some [delay, duration, mode, repetition] => do
    return ⟨← whole? delay >>= Word.uint32?, ← whole? duration >>= Word.uint32?,
      ← ProgressMode.ofJson? (depthLimit - 1) mode, ← whole? repetition >>= Word.int32?⟩
  | _, _ => none

end Timeline

namespace Origin

/-- The stored form of an origin. -/
def toJson (origin : Origin) : Json := Json.ofText origin.display

/-- The origin of a stored form: its word, or an object with nothing under that word. -/
def ofJson? : Json → Option Origin
  | .string letters => Json.text? letters >>= parse?
  | .object [(key, .null)] => Json.text? key >>= parse?
  | _ => none

end Origin

end ThemeMotion
