import ThemeMotion.Proofs.Value.Integral
import ThemeMotion.Proofs.Value.Spelling

/-!
# Values of the requested type

What a text or another value gives for a type can be stored in a property of the type as it
is, and to store it there once more changes nothing. For an enumeration this means a member
that it declares, whatever its members have in common. Which member a text gives is told as
well: names come before integers, and of several members with one name the first counts.
-/

namespace ThemeMotion

open Decimal (Spells)

/-- A text means a member of an enumeration when it is the name or the nick of the member, or
when it spells the member's integer and nothing is called so. Blanks around it do not count. -/
def Means (type : EnumType) (text : String) (member : Member Int32) : Prop :=
  let token := Text.trim text.toList
  type.byName? (String.ofList token) = some member ∨
    type.byName? (String.ofList token) = none ∧ Spells token member.value.toInt

/-- A text gives the word of an enumeration exactly when it means a member with this word. -/
theorem member?_eq_some_iff (type : EnumType) (text : String) (word : Int32) :
    Coerce.member? type text = some word ↔
      ∃ member ∈ type.members, member.value = word ∧ Means type text member := by
  unfold Coerce.member? Means
  dsimp only
  cases named : type.byName? (String.ofList (Text.trim text.toList)) with
  | some first =>
    simp only [Option.some.injEq, reduceCtorEq, false_and, or_false]
    constructor
    · intro same
      exact ⟨first, MemberType.byName?_mem named, same, rfl⟩
    · rintro ⟨member, _, same, rfl⟩
      exact same
  | none =>
    simp only [Option.bind_eq_bind, Option.bind_eq_some_iff, Option.map_eq_some_iff,
      Coerce.int?_eq_some_iff, Word.int32?_eq_some, reduceCtorEq, true_and, false_or]
    constructor
    · rintro ⟨integer, spelled, held, same, member, found, rfl⟩
      refine ⟨member, MemberType.byValue?_mem found, rfl, ?_⟩
      rw [MemberType.byValue?_value found, ← same]
      exact spelled
    · rintro ⟨member, declared, rfl, spelled⟩
      have lower := member.value.le_toInt
      have upper := member.value.toInt_lt
      obtain ⟨integer, same⟩ := (Word.exists_int64_iff member.value.toInt).mpr (by omega)
      obtain ⟨first, found⟩ := Option.isSome_iff_exists.mp
        ((type.byValue?_isSome_iff member.value).mpr ⟨member, declared, rfl⟩)
      exact ⟨integer, same ▸ spelled, member.value, same.symm, first, found,
        MemberType.byValue?_value found⟩

namespace Value

/-- The values of a type are those that conversion to the type leaves as they are. -/
theorem transform?_eq_self_iff (value : Value) (type : ValueType) :
    value.transform? type = some value ↔ value.hasType type = true := by
  constructor
  · intro kept
    exact (hasType_iff value type).mpr (transform?_inhabits kept)
  · intro typed
    exact if_pos typed

end Value

/-- Texts and values give values of the type that is requested, or nothing. What a value
gives is left as it is by a second conversion to the type, and the values of a type are
exactly those that conversion leaves as they are. Those of an enumeration name it and hold
the word of a member that it declares, also where members share names, nicks or words; a text
is read as the member that it means, and is refused where it means none. -/
theorem conversion_typed :
    (∀ (text : String) (type : ValueType) (value : Value),
      coerce text type = .ok value → value.hasType type = true) ∧
    (∀ (value stored : Value) (type : ValueType), value.transform? type = some stored →
      stored.hasType type = true ∧ stored.transform? type = some stored) ∧
    (∀ (value : Value) (type : ValueType),
      value.transform? type = some value ↔ value.hasType type = true) ∧
    (∀ (value : Value) (type : EnumType), value.hasType (.enumeration type) = true ↔
      ∃ member ∈ type.members, value = .enumeration type.name member.value) ∧
    ∀ (text : String) (type : EnumType) (value : Value),
      coerce text (.enumeration type) = .ok value ↔
        ∃ member ∈ type.members, value = .enumeration type.name member.value ∧
          Means type text member := by
  refine ⟨?_, ?_, Value.transform?_eq_self_iff, Value.hasType_enumeration_iff, ?_⟩
  · intro text type value accepted
    exact (value.hasType_iff type).mpr (coerce_inhabits accepted)
  · intro value stored type transformed
    have typed := (stored.hasType_iff type).mpr (Value.transform?_inhabits transformed)
    exact ⟨typed, (stored.transform?_eq_self_iff type).mpr typed⟩
  · intro text type value
    rw [coerce_ok_iff, Coerce.read, Coerce.accepted_map_ok_iff]
    constructor
    · rintro ⟨word, read, rfl⟩
      obtain ⟨member, declared, rfl, means⟩ := (member?_eq_some_iff type text word).mp read
      exact ⟨member, declared, rfl, means⟩
    · rintro ⟨member, declared, rfl, means⟩
      exact ⟨member.value, (member?_eq_some_iff type text member.value).mpr
        ⟨member, declared, rfl, means⟩, rfl⟩

/-- The nick of a member goes before the integer of another one, and an integer becomes the
member that denotes it. Both values stay what they are. -/
theorem alignment_kept :
    coerce " 1 " (.enumeration alignment) = .ok (.enumeration "Alignment" (-1)) ∧
    (Value.enumeration "Alignment" (-1)).hasType (.enumeration alignment) = true ∧
    (Value.uint 1).transform? (.enumeration alignment) = some (.enumeration "Alignment" 1) ∧
    (Value.enumeration "Alignment" 1).hasType (.enumeration alignment) = true ∧
    (Value.enumeration "Alignment" 1).transform? (.enumeration alignment) =
      some (.enumeration "Alignment" 1) := by
  have read : coerce " 1 " (.enumeration alignment) = .ok (.enumeration "Alignment" (-1)) := by
    decide
  have converted : (Value.uint 1).transform? (.enumeration alignment) =
      some (.enumeration "Alignment" 1) := by
    decide
  exact ⟨read, conversion_typed.1 _ _ _ read, converted, conversion_typed.2.1 _ _ _ converted⟩

end ThemeMotion
