import ThemeMotion.Value.Coerce

/-!
# Values and their types

What it takes to be a value of a type is said once more, one form of value for each type:
a value of an enumeration is one of the members that this very enumeration declares, while
a value of a flag set need only bear its name. `Value.hasType_iff` shows that `hasType`
decides this.

A value comes to a type in two ways, by conversion of another value and by reading of a
text. Both give values of that type or nothing. Which value they give is not described.
-/

namespace ThemeMotion

namespace MemberType

variable {Word : Type} {type : MemberType Word} {member : Member Word}

/-- A member that is found by its name is declared. -/
theorem byName?_mem {token : String} (found : type.byName? token = some member) :
    member ∈ type.members :=
  List.mem_of_find?_eq_some found

variable [DecidableEq Word]

/-- A member that is found by its word is declared. -/
theorem byValue?_mem {word : Word} (found : type.byValue? word = some member) :
    member ∈ type.members :=
  List.mem_of_find?_eq_some found

/-- A member that is found by a word has it. -/
theorem byValue?_value {word : Word} (found : type.byValue? word = some member) :
    member.value = word := by
  have same := List.find?_some found
  exact beq_iff_eq.mp same

/-- A member is found by a word exactly when one with that word is declared. -/
theorem byValue?_isSome_iff (type : MemberType Word) (word : Word) :
    (type.byValue? word).isSome ↔ ∃ member ∈ type.members, member.value = word := by
  simp [byValue?]

end MemberType

/-- The values that can be stored in a property of a type. -/
inductive Value.Inhabits : ValueType → Value → Prop where
  | bool (value : Bool) : Inhabits .bool (.bool value)
  | int (value : Int64) : Inhabits .int (.int value)
  | uint (value : UInt64) : Inhabits .uint (.uint value)
  | float (value : Float32) : Inhabits .float (.float value)
  | double (value : Float) : Inhabits .double (.double value)
  | string (value : String) : Inhabits .string (.string value)
  | color (value : Color) : Inhabits .color (.color value)
  | enumeration (type : EnumType) (member : Member Int32) (declared : member ∈ type.members) :
    Inhabits (.enumeration type) (.enumeration type.name member.value)
  | flags (type : FlagsType) (word : UInt32) : Inhabits (.flags type) (.flags type.name word)

namespace Value

/-- The values of a type are those that have it. -/
theorem hasType_iff (value : Value) (type : ValueType) :
    value.hasType type = true ↔ Inhabits type value := by
  constructor
  · intro typed
    cases value with
    | enumeration name word =>
      cases type <;> try cases typed
      case enumeration type =>
        obtain ⟨same, found⟩ := (Bool.and_eq_true _ _).mp typed
        obtain rfl := beq_iff_eq.mp same
        obtain ⟨member, declared, rfl⟩ := (type.byValue?_isSome_iff word).mp found
        exact .enumeration type member declared
    | flags name word =>
      cases type <;> try cases typed
      case flags type =>
        obtain rfl := beq_iff_eq.mp typed
        exact .flags type word
    | _ =>
      cases type <;> cases typed
      constructor
  · intro inhabits
    cases inhabits with
    | enumeration type member declared =>
      have found := (type.byValue?_isSome_iff member.value).mpr ⟨member, declared, rfl⟩
      simp [hasType, found]
    | flags type word => exact beq_self_eq_true type.name
    | _ => rfl

/-- The values that have an enumeration as their type are its declared members. -/
theorem hasType_enumeration_iff (value : Value) (type : EnumType) :
    value.hasType (.enumeration type) = true ↔
      ∃ member ∈ type.members, value = .enumeration type.name member.value := by
  rw [hasType_iff]
  constructor
  · intro inhabits
    cases inhabits with
    | enumeration _ member declared => exact ⟨member, declared, rfl⟩
  · rintro ⟨member, declared, rfl⟩
    exact .enumeration type member declared

/-- A converted value is of the type that it was converted to. -/
theorem convert?_inhabits {value stored : Value} {type : ValueType}
    (converted : value.convert? type = some stored) : Inhabits type stored := by
  cases type with
  | bool =>
    obtain ⟨_, _, rfl⟩ := Option.map_eq_some_iff.mp converted
    exact .bool _
  | int =>
    obtain ⟨_, _, rfl⟩ := Option.map_eq_some_iff.mp converted
    exact .int _
  | uint =>
    obtain ⟨_, _, held⟩ := Option.bind_eq_some_iff.mp converted
    obtain ⟨_, _, rfl⟩ := Option.map_eq_some_iff.mp held
    exact .uint _
  | float =>
    obtain ⟨_, _, rfl⟩ := Option.map_eq_some_iff.mp converted
    exact .float _
  | double =>
    obtain ⟨_, _, rfl⟩ := Option.map_eq_some_iff.mp converted
    exact .double _
  | string =>
    obtain rfl := Option.some.inj converted
    exact .string _
  | color => exact nomatch converted
  | enumeration enum =>
    obtain ⟨_, _, held⟩ := Option.bind_eq_some_iff.mp converted
    obtain ⟨_, _, found⟩ := Option.bind_eq_some_iff.mp held
    obtain ⟨member, among, rfl⟩ := Option.map_eq_some_iff.mp found
    exact .enumeration enum member (MemberType.byValue?_mem among)
  | flags flags =>
    obtain ⟨_, _, held⟩ := Option.bind_eq_some_iff.mp converted
    obtain ⟨word, _, rfl⟩ := Option.map_eq_some_iff.mp held
    exact .flags flags word

/-- A value is stored in a property as a value of the property's type. -/
theorem transform?_inhabits {value stored : Value} {type : ValueType}
    (transformed : value.transform? type = some stored) : Inhabits type stored := by
  unfold transform? at transformed
  split at transformed
  case isTrue typed =>
    obtain rfl := Option.some.inj transformed
    exact (hasType_iff value type).mp typed
  case isFalse => exact convert?_inhabits transformed

end Value

namespace Coerce

open Value (Inhabits)

/-- The word that a text gives for an enumeration belongs to a declared member. -/
theorem member?_declared {type : EnumType} {text : String} {word : Int32}
    (read : member? type text = some word) : ∃ member ∈ type.members, member.value = word := by
  simp only [member?] at read
  split at read
  case h_1 member named =>
    obtain rfl := Option.some.inj read
    exact ⟨member, MemberType.byName?_mem named, rfl⟩
  case h_2 =>
    obtain ⟨_, _, held⟩ := Option.bind_eq_some_iff.mp read
    obtain ⟨_, _, found⟩ := Option.bind_eq_some_iff.mp held
    obtain ⟨member, among, rfl⟩ := Option.map_eq_some_iff.mp found
    exact ⟨member, MemberType.byValue?_mem among, rfl⟩

/-- A floating-point text gives a value of the type that it is read for. -/
theorem floating?_inhabits {text : List Char} {type : ValueType} {value : Value}
    (read : floating? text type = some value) : Inhabits type value := by
  simp only [floating?] at read
  split at read
  case h_1 => exact Value.transform?_inhabits read
  case h_2 =>
    obtain ⟨_, _, transformed⟩ := Option.bind_eq_some_iff.mp read
    exact Value.transform?_inhabits transformed

/-- A text that is read for a type gives a value of that type. -/
theorem read_inhabits {text : String} {type : ValueType} {value : Value}
    (success : Coerce.read text type = .ok value) : Inhabits type value := by
  cases type with
  | bool =>
    obtain ⟨word, _, rfl⟩ := accepted_map_ok_iff.mp success
    exact .bool word
  | int =>
    obtain ⟨integer, _, rfl⟩ := accepted_map_ok_iff.mp success
    exact .int integer
  | uint =>
    simp only [Coerce.read] at success
    split at success
    case h_1 => exact nomatch success
    case h_2 =>
      obtain ⟨word, _, rfl⟩ := accepted_map_ok_iff.mp success
      exact .uint word
  | float => exact floating?_inhabits (accepted_ok_iff.mp success)
  | double => exact floating?_inhabits (accepted_ok_iff.mp success)
  | string =>
    obtain rfl := Except.ok.inj success
    exact .string text
  | color =>
    obtain ⟨color, _, rfl⟩ := accepted_map_ok_iff.mp success
    exact .color color
  | enumeration enum =>
    obtain ⟨word, found, rfl⟩ := accepted_map_ok_iff.mp success
    obtain ⟨member, declared, rfl⟩ := member?_declared found
    exact .enumeration enum member declared
  | flags flags =>
    obtain ⟨word, _, rfl⟩ := accepted_map_ok_iff.mp success
    exact .flags flags word

end Coerce

/-- A text that is accepted for a type gives a value of that type. -/
theorem coerce_inhabits {text : String} {type : ValueType} {value : Value}
    (success : coerce text type = .ok value) : Value.Inhabits type value :=
  Coerce.read_inhabits (coerce_ok_iff.mp success)

end ThemeMotion
