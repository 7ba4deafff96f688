import ThemeMotion.Decimal.FloatText
import ThemeMotion.Word

/-!
# Typed property values

A property of an actor has a declared type, and its value, when there is one, is of
that type. Enumerations and flag sets are described by their members; a value of
either names its type and holds the member's word. Lookups take the first member
that fits, so the order of members decides between duplicates.
-/

namespace ThemeMotion

/-- One named constant of an enumeration or a flag set. -/
structure Member (Word : Type) where
  value : Word
  /-- Full symbolic name. -/
  name : String
  /-- Short form. -/
  nick : String
deriving DecidableEq, Repr

/-- A type whose constants are named words. -/
structure MemberType (Word : Type) where
  name : String
  members : List (Member Word)
deriving DecidableEq, Repr

namespace MemberType

variable {Word : Type}

/-- The first member with the given full name or nick. -/
def byName? (type : MemberType Word) (token : String) : Option (Member Word) :=
  type.members.find? fun member => member.name == token || member.nick == token

/-- The first member with the given word. -/
def byValue? [DecidableEq Word] (type : MemberType Word) (value : Word) : Option (Member Word) :=
  type.members.find? fun member => member.value == value

end MemberType

/-- An enumeration holds one of its declared words. -/
abbrev EnumType := MemberType Int32

/-- A flag set holds any union of words, declared or not. -/
abbrev FlagsType := MemberType UInt32

/-- The declared type of a property. -/
inductive ValueType where
  | bool
  | int
  | uint
  | float
  | double
  | string
  | color
  | enumeration (type : EnumType)
  | flags (type : FlagsType)
deriving DecidableEq, Repr

/-- The name of a type as messages show it. -/
def ValueType.display : ValueType → String
  | .bool => "bool"
  | .int => "int"
  | .uint => "uint"
  | .float => "float"
  | .double => "double"
  | .string => "string"
  | .color => "color"
  | .enumeration type => "enum " ++ type.name
  | .flags type => "flags " ++ type.name

/-- A colour with straight alpha, each channel normally between zero and one. -/
structure Color where
  red : Float32
  green : Float32
  blue : Float32
  alpha : Float32
deriving DecidableEq, Repr

namespace Color

/-- A channel held between zero and one. NaN and negative zero stay. -/
def clampChannel (channel : Float32) : Float32 :=
  if channel < 0 then 0 else if 1 < channel then 1 else channel

/-- The byte nearest to a channel, a half going up; NaN gives zero. -/
def channelByte (channel : Float32) : Nat :=
  match BinaryNumber.ofSingle (clampChannel channel * 255) with
  | .finite _ quanta =>
    (2 * quanta + BinaryFormat.single.one) / (2 * BinaryFormat.single.one)
  | _ => 0

/-- A number sign and two hexadecimal digits for each channel. -/
def display (color : Color) : String :=
  String.ofList ('#' :: [color.red, color.green, color.blue, color.alpha].flatMap
    fun channel => Decimal.hexDigits 2 (channelByte channel))

end Color

/-- A typed property value. -/
inductive Value where
  | bool (value : Bool)
  | int (value : Int64)
  | uint (value : UInt64)
  | float (value : Float32)
  | double (value : Float)
  | string (value : String)
  | color (value : Color)
  | enumeration (typeName : String) (value : Int32)
  | flags (typeName : String) (value : UInt32)
deriving DecidableEq, Repr

namespace Value

/-- The value can be stored as it is in a property of the type. An enumeration value
has to be declared by that very type; a flag set need only bear its name. -/
def hasType : Value → ValueType → Bool
  | .bool _, .bool => true
  | .int _, .int => true
  | .uint _, .uint => true
  | .float _, .float => true
  | .double _, .double => true
  | .string _, .string => true
  | .color _, .color => true
  | .enumeration typeName value, .enumeration type =>
    typeName == type.name && (type.byValue? value).isSome
  | .flags typeName _, .flags type => typeName == type.name
  | _, _ => false

/-- The text of a value: numbers in decimal, a colour in hexadecimal, strings as
they are. -/
def display : Value → String
  | .bool true => "true"
  | .bool false => "false"
  | .int value => Decimal.integer value.toInt
  | .uint value => Decimal.natural value.toNat
  | .float value => Decimal.FloatStyle.displayed.single value
  | .double value => Decimal.FloatStyle.displayed.double value
  | .string value => value
  | .color value => value.display
  | .enumeration _ value => Decimal.integer value.toInt
  | .flags _ value => Decimal.natural value.toNat

end Value

/-- Why a value was refused. -/
inductive ValueError where
  /-- The text is no value of the expected type. -/
  | invalidValue (text : String) (expected : ValueType)
  /-- The actor declares no such property. -/
  | unknownProperty (name : String)
  /-- The value has no form of the property's type. -/
  | typeMismatch (property : String) (expected : ValueType)
deriving DecidableEq, Repr

/-- The wording of a refusal. -/
def ValueError.message : ValueError → String
  | .invalidValue text expected => s!"invalid value '{text}' for type {expected.display}"
  | .unknownProperty name => s!"no property named '{name}'"
  | .typeMismatch property expected => s!"property '{property}' expects {expected.display}"

end ThemeMotion
