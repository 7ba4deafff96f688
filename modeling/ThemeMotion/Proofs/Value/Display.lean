import ThemeMotion.Proofs.Value.Flags
import ThemeMotion.Proofs.Value.Reading

/-!
# Displayed values

Booleans, signed integers, strings, members of enumerations and flag sets are read back from
their displayed texts. The texts of members and flag sets are integers, while reading looks for
names first, so a member that is called like the integer of another one takes its text away.
Nothing else does: a value is read back unless its number is taken in this way
(`display_read_back`), whatever members have in common.

Unsigned integers are not among these values, since their upper half is not read from texts
(`coerce_uint_exact`). Floating-point values and colours are not treated here.
-/

namespace ThemeMotion

open Decimal (Spells)

namespace MemberType

variable {Word : Type} {type : MemberType Word}

/-- A text that should stand for a word is the name or the nick of a member with another one. -/
def Shadows (type : MemberType Word) (text : String) (word : Word) : Prop :=
  ∃ member, type.byName? text = some member ∧ member.value ≠ word

/-- No member is called by a text that is read as an integer. -/
def NamesNoInteger (type : MemberType Word) : Prop :=
  ∀ member ∈ type.members, ∀ integer,
    coerceInt member.name ≠ .ok integer ∧ coerceInt member.nick ≠ .ok integer

/-- A member that is found by a text is called so. -/
theorem byName?_named {text : String} {member : Member Word}
    (found : type.byName? text = some member) : member.name = text ∨ member.nick = text := by
  have called := List.find?_some found
  simpa using called

/-- Where no member is called by an integer, nothing takes the text of an integer away. -/
theorem NamesNoInteger.not_shadows (free : type.NamesNoInteger) {text : String} {integer : Int64}
    (read : coerceInt text = .ok integer) (word : Word) : ¬ type.Shadows text word := by
  rintro ⟨member, found, _⟩
  obtain ⟨noName, noNick⟩ := free member (byName?_mem found) integer
  rcases byName?_named found with rfl | rfl
  · exact noName read
  · exact noNick read

end MemberType

namespace ValueType

/-- The text of a value is the name of a member with another word. -/
def Shadows : ValueType → Value → Prop
  | .enumeration type, .enumeration name word =>
    type.Shadows (Value.enumeration name word).display word
  | .flags type, .flags name word => type.Shadows (Value.flags name word).display word
  | _, _ => False

/-- No member of the type is called by a text that is read as an integer. -/
def NamesNoInteger : ValueType → Prop
  | .enumeration type => type.NamesNoInteger
  | .flags type => type.NamesNoInteger
  | _ => True

end ValueType

namespace Decimal

/-- The text of an integer consists of digits and a minus. -/
theorem integer_chars (n : Int) : ∀ c ∈ (integer n).toList, c.isDigit = true ∨ c = '-' := by
  cases n with
  | ofNat n =>
    intro c member
    rw [integer, natural, String.toList_ofList] at member
    exact .inl (digits_isDigit n c member)
  | negSucc n =>
    intro c member
    rw [integer, String.toList_ofList, List.mem_cons] at member
    rcases member with rfl | digit
    · exact .inr rfl
    · exact .inl (digits_isDigit (n + 1) c digit)

/-- The text of an integer has no blanks around it. -/
theorem trim_integer (n : Int) : Text.trim (integer n).toList = (integer n).toList := by
  have solid : ∀ c ∈ (integer n).toList, Text.isBlank c = false := by
    intro c member
    rcases integer_chars n c member with digit | rfl
    · exact (isDigit_solid digit).1
    · decide
  have trimmed := Text.trim_blanks_append (List.forall_mem_nil _) solid
  exact trimmed

/-- The text of an integer is one token. -/
theorem flagTokens_integer (n : Int) : flagTokens (integer n) = [(integer n).toList] := by
  have plain : '|' ∉ (integer n).toList := by
    intro member
    rcases integer_chars n '|' member with digit | minus
    · exact absurd digit (by decide)
    · exact absurd minus (by decide)
  rw [flagTokens, Text.fields_plain plain, List.map_singleton, trim_integer]

end Decimal

/-- The text of a word is read as the word's integer. -/
theorem coerceInt_integer {n : Int} {integer : Int64} (denotes : n = integer.toInt) :
    coerceInt (Decimal.integer n) = .ok integer := by
  rw [coerceInt_ok_iff, ← denotes]
  exact Decimal.spells_integer n

/-- The integer of a declared member is read as the member unless it is the name of another. -/
theorem member?_integer_iff {type : EnumType} {word : Int32}
    (declared : ∃ member ∈ type.members, member.value = word) :
    Coerce.member? type (Decimal.integer word.toInt) = some word ↔
      ¬ type.Shadows (Decimal.integer word.toInt) word := by
  rw [member?_eq_some_iff]
  simp only [Means, Decimal.trim_integer, String.ofList_toList]
  cases named : type.byName? (Decimal.integer word.toInt) with
  | some first =>
    have taken : type.Shadows (Decimal.integer word.toInt) word ↔ first.value ≠ word := by
      simp [MemberType.Shadows, named]
    rw [taken, not_not]
    constructor
    · rintro ⟨member, _, same, means⟩
      rcases means with called | ⟨unnamed, _⟩
      · obtain rfl := Option.some.inj called
        exact same
      · cases unnamed
    · intro same
      exact ⟨first, MemberType.byName?_mem named, same, .inl rfl⟩
  | none =>
    have free : ¬ type.Shadows (Decimal.integer word.toInt) word := by
      simp [MemberType.Shadows, named]
    obtain ⟨member, among, rfl⟩ := declared
    exact iff_of_true
      ⟨member, among, rfl, .inr ⟨rfl, Decimal.spells_integer member.value.toInt⟩⟩ free

/-- The integer of a flag set is read as the flag set unless it is the name of a member with
another word. -/
theorem flags?_integer_iff (type : FlagsType) (word : UInt32) :
    Coerce.flags? type (Decimal.integer word.toNat) = some word ↔
      ¬ type.Shadows (Decimal.integer word.toNat) word := by
  have single : Coerce.flags? type (Decimal.integer word.toNat) = some word ↔
      MeansFlags type (Decimal.integer word.toNat).toList word := by
    rw [Coerce.flags?_eq, Decimal.flagTokens_integer, List.map_singleton,
      Coerce.union?_cons_iff, ← Coerce.flag?_eq_some_iff]
    simp [Coerce.union?, eq_comm]
  have filled : (Decimal.integer word.toNat).toList ≠ [] := by
    obtain ⟨written, same, _⟩ := Decimal.spells_integer word.toNat
    rw [← same]
    simp [Decimal.WrittenInteger.text, written.filled]
  rw [single]
  simp only [MeansFlags, String.ofList_toList]
  cases named : type.byName? (Decimal.integer word.toNat) with
  | some first => simp [filled, MemberType.Shadows, named]
  | none =>
    have free : ¬ type.Shadows (Decimal.integer word.toNat) word := by
      simp [MemberType.Shadows, named]
    exact iff_of_true ⟨filled, .inr ⟨rfl, Decimal.spells_integer word.toNat⟩⟩ free

/-- The values whose texts are words, signed integers or strings, or stand for members and flag
sets by their integers. -/
def Value.hasWholeText : Value → Bool
  | .bool _ | .int _ | .string _ | .enumeration _ _ | .flags _ _ => true
  | _ => false

/-- A displayed value of a type is read back as the same value, unless it is a member or a flag
set whose number is the name or the nick of a member with another word. So all of them are read
back where no member is called by an integer, in whatever else the members agree. -/
theorem display_read_back {value : Value} {type : ValueType} (typed : value.hasType type = true)
    (whole : value.hasWholeText = true) :
    (coerce value.display type = .ok value ↔ ¬ type.Shadows value) ∧
    (type.NamesNoInteger → coerce value.display type = .ok value) := by
  have certain {value : Value} {type : ValueType} (read : coerce value.display type = .ok value)
      (free : ¬ type.Shadows value) :
      (coerce value.display type = .ok value ↔ ¬ type.Shadows value) ∧
        (type.NamesNoInteger → coerce value.display type = .ok value) :=
    ⟨iff_of_true read free, fun _ => read⟩
  cases (value.hasType_iff type).mp typed with
  | bool word => cases word <;> exact certain (by decide) not_false
  | int word =>
    refine certain ?_ not_false
    rw [coerce_ok_iff, Coerce.read, Coerce.accepted_map_ok_iff]
    exact ⟨word, (Coerce.int?_eq_some_iff _ word).mpr (Decimal.spells_integer word.toInt), rfl⟩
  | string text => exact certain rfl not_false
  | enumeration type member declared =>
    have exact_iff : coerce (Value.enumeration type.name member.value).display
        (.enumeration type) = .ok (.enumeration type.name member.value) ↔
        ¬ type.Shadows (Decimal.integer member.value.toInt) member.value := by
      rw [← member?_integer_iff ⟨member, declared, rfl⟩, coerce_ok_iff, Coerce.read,
        Coerce.accepted_map_ok_iff]
      simp [Value.display]
    refine ⟨exact_iff, fun free => exact_iff.mpr ?_⟩
    have lower := member.value.le_toInt
    have upper := member.value.toInt_lt
    obtain ⟨integer, denotes⟩ := (Word.exists_int64_iff member.value.toInt).mpr (by omega)
    exact MemberType.NamesNoInteger.not_shadows free (coerceInt_integer denotes) member.value
  | flags type word =>
    have exact_iff : coerce (Value.flags type.name word).display (.flags type) =
        .ok (.flags type.name word) ↔
        ¬ type.Shadows (Decimal.integer word.toNat) word := by
      rw [← flags?_integer_iff, coerce_ok_iff, Coerce.read, Coerce.accepted_map_ok_iff]
      simp [Value.display, Decimal.integer]
    refine ⟨exact_iff, fun free => exact_iff.mpr ?_⟩
    have upper := word.toNat_lt
    obtain ⟨integer, denotes⟩ := (Word.exists_int64_iff word.toNat).mpr (by omega)
    exact MemberType.NamesNoInteger.not_shadows free (coerceInt_integer denotes) word
  | _ => cases whole

/-- Ways to go on. Two members share a word, and two a nick. -/
def direction : EnumType :=
  ⟨"Direction", [⟨-1, "DIRECTION_BACK", "back"⟩, ⟨1, "DIRECTION_ON", "on"⟩,
    ⟨-1, "DIRECTION_LEFT", "on"⟩]⟩

/-- A member that shares its word with another one is displayed as a negative integer and read
back. -/
theorem direction_read_back :
    (Value.enumeration "Direction" (-1)).hasType (.enumeration direction) = true ∧
    (Value.enumeration "Direction" (-1)).hasWholeText = true ∧
    (ValueType.enumeration direction).NamesNoInteger ∧
    coerce (Value.enumeration "Direction" (-1)).display (.enumeration direction) =
      .ok (.enumeration "Direction" (-1)) := by
  have typed : (Value.enumeration "Direction" (-1)).hasType (.enumeration direction) = true := by
    decide
  have refused : ∀ member ∈ direction.members,
      coerceInt member.name = .error (.invalidValue member.name .int) ∧
        coerceInt member.nick = .error (.invalidValue member.nick .int) := by
    decide
  have free : (ValueType.enumeration direction).NamesNoInteger := by
    intro member among integer
    obtain ⟨noName, noNick⟩ := refused member among
    rw [noName, noNick]
    exact ⟨nofun, nofun⟩
  exact ⟨typed, rfl, free, (display_read_back typed rfl).2 free⟩

/-- The nick of one member is the integer of another, which is then read as the first. -/
example : coerce (Value.enumeration "Alignment" 1).display (.enumeration alignment) =
    .ok (.enumeration "Alignment" (-1)) := by
  decide +kernel

end ThemeMotion
