import Mathlib.Algebra.Group.Int.Defs
import ThemeMotion.Proofs.Value.Typing

/-!
# Integers that values denote

Booleans, signed and unsigned integers, members of enumerations and flag sets denote
integers, each within the width of its word. Conversion between these types passes through
signed 64-bit words, and nothing is lost on the way: a converted value denotes the integer
of the value it came from, and a conversion is refused exactly when no value of the type
denotes it (`Value.integral_exact`).

What floating-point values become is not described.
-/

namespace ThemeMotion

/-- The integer that a value denotes, whatever the width of its word. -/
def Value.denoted? : Value → Option Int
  | .bool value => some (if value then 1 else 0)
  | .int value => some value.toInt
  | .uint value => some value.toNat
  | .enumeration _ value => some value.toInt
  | .flags _ value => some value.toNat
  | _ => none

namespace ValueType

/-- The types that hold integers. -/
def isIntegral : ValueType → Bool
  | .int | .uint | .enumeration _ | .flags _ => true
  | _ => false

/-- The integers that an integral type can represent: those of its words, or of the members
that an enumeration declares. -/
def Represents : ValueType → Int → Prop
  | .int, n => -2 ^ 63 ≤ n ∧ n ≤ 2 ^ 63 - 1
  | .uint, n => 0 ≤ n ∧ n ≤ 2 ^ 64 - 1
  | .enumeration type, n => ∃ member ∈ type.members, member.value.toInt = n
  | .flags _, n => 0 ≤ n ∧ n ≤ 2 ^ 32 - 1
  | _, _ => False

/-- The value of an integral type that denotes an integer. -/
def holding? : ValueType → Int → Option Value
  | .int, n => (Word.int64? n).map .int
  | .uint, n => (Word.uint64? n).map .uint
  | .enumeration type, n => Word.int32? n >>= fun word =>
    (type.byValue? word).map fun member => .enumeration type.name member.value
  | .flags type, n => (Word.uint32? n).map (.flags type.name)
  | _, _ => none

/-- An integral type holds an integer in the one value of the type that denotes it. -/
theorem holding?_eq_some_iff {type : ValueType} (integral : type.isIntegral = true) (n : Int)
    (stored : Value) :
    type.holding? n = some stored ↔ stored.hasType type = true ∧ stored.denoted? = some n := by
  rw [Value.hasType_iff]
  cases type with
  | int =>
    simp only [holding?, Option.map_eq_some_iff, Word.int64?_eq_some]
    constructor
    · rintro ⟨word, rfl, rfl⟩
      exact ⟨.int word, rfl⟩
    · rintro ⟨inhabits, denotes⟩
      cases inhabits with
      | int word => exact ⟨word, (Option.some.inj denotes).symm, rfl⟩
  | uint =>
    simp only [holding?, Option.map_eq_some_iff, Word.uint64?_eq_some]
    constructor
    · rintro ⟨word, rfl, rfl⟩
      exact ⟨.uint word, rfl⟩
    · rintro ⟨inhabits, denotes⟩
      cases inhabits with
      | uint word => exact ⟨word, (Option.some.inj denotes).symm, rfl⟩
  | enumeration type =>
    simp only [holding?, Option.bind_eq_bind, Option.bind_eq_some_iff, Option.map_eq_some_iff,
      Word.int32?_eq_some]
    constructor
    · rintro ⟨word, rfl, member, found, rfl⟩
      refine ⟨.enumeration type member (MemberType.byValue?_mem found), ?_⟩
      rw [Value.denoted?, MemberType.byValue?_value found]
    · rintro ⟨inhabits, denotes⟩
      cases inhabits with
      | enumeration _ member declared =>
        obtain ⟨first, found⟩ := Option.isSome_iff_exists.mp
          ((type.byValue?_isSome_iff member.value).mpr ⟨member, declared, rfl⟩)
        refine ⟨member.value, (Option.some.inj denotes).symm, first, found, ?_⟩
        rw [MemberType.byValue?_value found]
  | flags type =>
    simp only [holding?, Option.map_eq_some_iff, Word.uint32?_eq_some]
    constructor
    · rintro ⟨word, rfl, rfl⟩
      exact ⟨.flags type word, rfl⟩
    · rintro ⟨inhabits, denotes⟩
      cases inhabits with
      | flags _ word => exact ⟨word, (Option.some.inj denotes).symm, rfl⟩
  | _ => cases integral

/-- An integral type holds exactly the integers that it can represent. -/
theorem exists_holding?_iff {type : ValueType} (integral : type.isIntegral = true) (n : Int) :
    (∃ stored, type.holding? n = some stored) ↔ type.Represents n := by
  have formed {Word : Type} (word? : Option Word) (form : Word → Value) :
      (∃ stored, word?.map form = some stored) ↔ ∃ word, word? = some word := by
    cases word? <;> simp
  cases type with
  | int =>
    rw [holding?, formed]
    simp only [Word.int64?_eq_some]
    exact Word.exists_int64_iff n
  | uint =>
    rw [holding?, formed]
    simp only [Word.uint64?_eq_some]
    exact Word.exists_uint64_iff n
  | enumeration type =>
    simp only [holding?_eq_some_iff integral, Value.hasType_enumeration_iff]
    constructor
    · rintro ⟨_, ⟨member, declared, rfl⟩, denotes⟩
      exact ⟨member, declared, Option.some.inj denotes⟩
    · rintro ⟨member, declared, rfl⟩
      exact ⟨_, ⟨member, declared, rfl⟩, rfl⟩
  | flags type =>
    rw [holding?, formed]
    simp only [Word.uint32?_eq_some]
    exact Word.exists_uint32_iff n
  | _ => cases integral

end ValueType

namespace Value

/-- The signed word of a value is that of the integer it denotes, where there is one. -/
theorem integral?_eq {value : Value} {n : Int} (denotes : value.denoted? = some n) :
    value.integral? = Word.int64? n ∧ value.integer? = Word.int64? n := by
  cases value with
  | bool value =>
    obtain rfl := Option.some.inj denotes
    cases value <;> exact ⟨rfl, rfl⟩
  | int value =>
    obtain rfl := Option.some.inj denotes
    have held := (Word.int64?_eq_some value.toInt value).mpr rfl
    exact ⟨held.symm, held.symm⟩
  | uint value =>
    obtain rfl := Option.some.inj denotes
    exact ⟨rfl, rfl⟩
  | enumeration name value =>
    obtain rfl := Option.some.inj denotes
    exact ⟨rfl, rfl⟩
  | flags name value =>
    obtain rfl := Option.some.inj denotes
    exact ⟨rfl, rfl⟩
  | _ => cases denotes

/-- All integers that values denote have signed words, those of unsigned values apart. -/
theorem denoted_signed {value : Value} {n : Int} (denotes : value.denoted? = some n)
    (other : value.hasType .uint = false) : ∃ word : Int64, n = word.toInt := by
  rw [Word.exists_int64_iff]
  cases value with
  | bool value =>
    obtain rfl := Option.some.inj denotes
    cases value <;> decide
  | int value =>
    obtain rfl := Option.some.inj denotes
    exact (Word.exists_int64_iff value.toInt).mp ⟨value, rfl⟩
  | uint value => cases other
  | enumeration name value =>
    obtain rfl := Option.some.inj denotes
    have lower := value.le_toInt
    have upper := value.toInt_lt
    omega
  | flags name value =>
    obtain rfl := Option.some.inj denotes
    have upper := value.toNat_lt
    omega
  | _ => cases denotes

/-- What an integral type holds of an integer is found through its signed word too, provided
that the type holds the integer only if there is one. -/
theorem holding?_through (type : ValueType) {n : Int}
    (signed : ∀ stored, type.holding? n = some stored → ∃ word : Int64, n = word.toInt) :
    (Word.int64? n >>= fun word => type.holding? word.toInt) = type.holding? n := by
  cases found : Word.int64? n with
  | some word =>
    rw [(Word.int64?_eq_some n word).mp found]
    rfl
  | none =>
    cases held : type.holding? n with
    | none => rfl
    | some stored =>
      obtain ⟨word, denotes⟩ := signed stored held
      rw [(Word.int64?_eq_some n word).mpr denotes] at found
      cases found

/-- What another integral type than that of unsigned integers holds has a signed word. -/
theorem holding?_signed {type : ValueType} (integral : type.isIntegral = true)
    (other : type ≠ .uint) {n : Int} {stored : Value} (held : type.holding? n = some stored) :
    ∃ word : Int64, n = word.toInt := by
  obtain ⟨typed, denotes⟩ := (ValueType.holding?_eq_some_iff integral n stored).mp held
  refine denoted_signed denotes ?_
  cases (hasType_iff stored type).mp typed with
  | uint => exact absurd rfl other
  | _ => rfl

/-- A value that is not yet of an integral type is converted to what the type holds of the
integer that the value denotes. -/
theorem convert?_eq_holding? {value : Value} {n : Int} {type : ValueType}
    (denotes : value.denoted? = some n) (integral : type.isIntegral = true)
    (other : value.hasType type = false) : value.convert? type = type.holding? n := by
  obtain ⟨whole, viewed⟩ := integral?_eq denotes
  cases type with
  | int => rw [convert?, whole, ValueType.holding?]
  | uint =>
    rw [convert?, whole]
    exact holding?_through .uint fun _ _ => denoted_signed denotes other
  | enumeration type =>
    rw [convert?, viewed]
    exact holding?_through _ fun _ held => holding?_signed integral (by simp) held
  | flags type =>
    rw [convert?, viewed]
    exact holding?_through _ fun _ held => holding?_signed integral (by simp) held
  | _ => cases integral

/-- A value becomes what an integral type holds of the integer that the value denotes. -/
theorem transform?_eq_holding? {value : Value} {n : Int} {type : ValueType}
    (denotes : value.denoted? = some n) (integral : type.isIntegral = true) :
    value.transform? type = type.holding? n := by
  unfold transform?
  split
  · next typed =>
    exact ((ValueType.holding?_eq_some_iff integral n value).mpr ⟨typed, denotes⟩).symm
  · next other => exact convert?_eq_holding? denotes integral (Bool.eq_false_iff.mpr other)

/-- Conversion of integers is exact or refused. A value that denotes an integer has a form in
an integral type exactly when the type can represent the integer, and this form is the one
value of the type that denotes the very same integer. Nothing wraps, is cut off or changes
its sign, at whatever end of a range. -/
theorem integral_exact {value : Value} {n : Int} {type : ValueType}
    (denotes : value.denoted? = some n) (integral : type.isIntegral = true) :
    ((∃ stored, value.transform? type = some stored) ↔ type.Represents n) ∧
    ∀ stored, value.transform? type = some stored ↔
      stored.hasType type = true ∧ stored.denoted? = some n := by
  rw [transform?_eq_holding? denotes integral]
  exact ⟨ValueType.exists_holding?_iff integral n, ValueType.holding?_eq_some_iff integral n⟩

end Value

/-- Sides of a box. Two members share a word, and the nick of one is the integer of another. -/
def alignment : EnumType :=
  ⟨"Alignment",
    [⟨-1, "ALIGN_START", "start"⟩, ⟨1, "ALIGN_END", "end"⟩, ⟨-1, "ALIGN_LEFT", "1"⟩]⟩

/-- A negative integer becomes the member that denotes it. -/
theorem alignment_of_integer :
    (Value.int (-1)).denoted? = some (-1) ∧
    (ValueType.enumeration alignment).isIntegral = true ∧
    (ValueType.enumeration alignment).Represents (-1) ∧
    (Value.int (-1)).transform? (.enumeration alignment) =
      some (.enumeration "Alignment" (-1)) := by
  have kept : (Value.int (-1)).transform? (.enumeration alignment) =
      some (.enumeration "Alignment" (-1)) :=
    ((Value.integral_exact rfl rfl).2 _).mpr ⟨by decide, rfl⟩
  exact ⟨rfl, rfl, (Value.integral_exact rfl rfl).1.mp ⟨_, kept⟩, kept⟩

/-- The same member has no unsigned form, and the least unsigned value without a signed form
keeps its own. -/
example : (Value.enumeration "Alignment" (-1)).transform? .uint = none ∧
    (Value.uint 9223372036854775808).transform? .int = none ∧
    (Value.uint 9223372036854775808).transform? .uint = some (.uint 9223372036854775808) := by
  decide

end ThemeMotion
