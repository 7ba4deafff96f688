import ThemeMotion.Value.Basic

/-!
# Conversion between property types

A value that already has the requested type is kept. Otherwise numbers convert by
their mathematical value where the target can hold it, integers become members of
an enumeration that declares them, and every value has a string form.
-/

namespace ThemeMotion.Value

/-- The integer that a value denotes within 64 signed bits; floating-point values,
strings and colours denote none. -/
def integer? : Value → Option Int64
  | .bool value => some (if value then 1 else 0)
  | .int value => some value
  | .uint value => Word.int64? value.toNat
  | .enumeration _ value => Word.int64? value.toInt
  | .flags _ value => Word.int64? value.toNat
  | _ => none

/-- The double nearest to a numeric value. -/
def number? : Value → Option Float
  | .float value => some (widen value)
  | .double value => some value
  | .uint value => some (doubleOfInt value.toNat)
  | value => value.integer?.map fun integer => doubleOfInt integer.toInt

/-- The integer of a value, where a finite floating-point value is cut toward zero. -/
def integral? : Value → Option Int64
  | .float value => integerPart? (widen value) >>= Word.int64?
  | .double value => integerPart? value >>= Word.int64?
  | value => value.integer?

/-- The form of a value in another type. -/
def convert? (value : Value) : ValueType → Option Value
  | .bool => value.number?.map fun number => .bool (!isZeroDouble number)
  | .int => value.integral?.map .int
  | .uint => value.integral? >>= fun integer => (Word.uint64? integer.toInt).map .uint
  | .float => value.number?.map fun number => .float (narrow number)
  | .double => value.number?.map .double
  | .string => some (.string value.display)
  | .color => none
  | .enumeration type =>
    value.integer? >>= fun integer => Word.int32? integer.toInt >>= fun word =>
      (type.byValue? word).map fun member => .enumeration type.name member.value
  | .flags type =>
    value.integer? >>= fun integer => (Word.uint32? integer.toInt).map fun word =>
      .flags type.name word

/-- The value as it is stored in a property of the type, when it has such a form. -/
def transform? (value : Value) (type : ValueType) : Option Value :=
  if value.hasType type then some value else value.convert? type

end ThemeMotion.Value
