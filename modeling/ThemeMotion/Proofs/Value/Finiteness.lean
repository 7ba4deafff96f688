import ThemeMotion.Proofs.Decimal.Size

/-!
# Finite numbers from texts

A text for a floating-point type is a numeral or a boolean word. Whether the numeral is finite is
asked of the double that it gives, for either type. So every double that is read is finite, while
a single is infinite where the numeral is too great for singles but not for doubles. NaN is never
read. `coerce_floating_exact` tells from the size that is written which texts are accepted, and
which of them give infinite singles.

Integers need no case of their own: they are numerals, and their words are small enough. Which
finite number a text gives is not described, beyond the rounding that places the limits.
-/

namespace ThemeMotion

open Decimal (Measures Numeral size)

/-- A value that is a number has a form in either floating-point type. -/
theorem Value.transform?_floating (value : Value) {x : Float} (numeric : value.number? = some x)
    {type : ValueType} (floating : type ∈ [ValueType.float, .double]) :
    ∃ stored, value.transform? type = some stored := by
  unfold transform?
  split
  · exact ⟨value, rfl⟩
  · rcases List.mem_pair.mp floating with rfl | rfl
    · rw [convert?, numeric]
      exact ⟨_, rfl⟩
    · rw [convert?, numeric]
      exact ⟨_, rfl⟩

namespace Coerce

/-- The finite double that a text gives as a numeral. -/
def finite? (text : List Char) : Option Float :=
  (Decimal.double? (Text.trim text)).filter isFiniteDouble

/-- The boolean word that a text is, apart from the blanks around it. -/
def trimmedWord? (text : List Char) : Option Bool := boolWord? (String.ofList (Text.trim text))

/-- A text gives the finite double of the numeral that it is read as. -/
theorem finite?_eq_some_iff (text : List Char) (x : Float) :
    finite? text = some x ↔
      ∃ negative mantissa exponent,
        Numeral.parse? (Text.trim text) = some (.finite negative mantissa exponent) ∧
          size mantissa exponent < 2 ^ 1024 - 2 ^ 970 ∧
          (Numeral.finite negative mantissa exponent).toDouble = x := by
  unfold finite? Decimal.double?
  rw [Option.filter_eq_some_iff, Option.map_eq_some_iff]
  constructor
  · rintro ⟨⟨numeral, read, rfl⟩, finite⟩
    obtain ⟨negative, mantissa, exponent, rfl, small⟩ :=
      (Numeral.isFiniteDouble_toDouble_iff numeral).mp finite
    exact ⟨negative, mantissa, exponent, read, small, rfl⟩
  · rintro ⟨negative, mantissa, exponent, read, small, rfl⟩
    exact ⟨⟨_, read, rfl⟩, (Numeral.isFiniteDouble_toDouble_iff _).mpr
      ⟨negative, mantissa, exponent, rfl, small⟩⟩

/-- A text gives a finite double exactly when it measures a size below the limit of doubles. -/
theorem exists_finite?_iff (text : List Char) :
    (∃ x, finite? text = some x) ↔
      ∃ amount, Measures text amount ∧ amount < 2 ^ 1024 - 2 ^ 970 := by
  simp only [finite?_eq_some_iff, Decimal.measures_iff]
  constructor
  · rintro ⟨_, negative, mantissa, exponent, read, small, rfl⟩
    exact ⟨_, ⟨negative, mantissa, exponent, read, rfl⟩, small⟩
  · rintro ⟨_, ⟨negative, mantissa, exponent, read, rfl⟩, small⟩
    exact ⟨_, negative, mantissa, exponent, read, small, rfl⟩

/-- A text that is read as an integer gives a finite double already. -/
theorem finite?_ne_none {text : List Char} {integer : Int64} (read : int? text = some integer) :
    finite? text ≠ none := by
  rw [Option.ne_none_iff_exists', exists_finite?_iff]
  have spelled := (int?_eq_some_iff text integer).mp read
  have lower := integer.le_toInt
  have upper := integer.toInt_lt
  have magnitude : integer.toInt.natAbs ≤ 2 ^ 63 := by omega
  have limit : 2 ^ 63 + 2 ^ 970 < 2 ^ 1024 := by decide +kernel
  have small : integer.toInt.natAbs + 2 ^ 970 < 2 ^ 1024 :=
    lt_of_le_of_lt (Nat.add_le_add_right magnitude _) limit
  refine ⟨_, Decimal.measures_of_spells spelled, lt_sub_iff_add_lt.mpr ?_⟩
  exact_mod_cast small

/-- A floating-point value comes from the finite double of the text, or without one from a
boolean word. -/
theorem floating?_eq_some_iff (text : List Char) (type : ValueType) (value : Value) :
    floating? text type = some value ↔
      (∃ x, finite? text = some x ∧ (Value.double x).transform? type = some value) ∨
      (finite? text = none ∧
        ∃ word, trimmedWord? text = some word ∧
          (Value.bool word).transform? type = some value) := by
  have same : (Decimal.double? (Text.trim text)).filter isFiniteDouble = finite? text := rfl
  unfold floating?
  rw [same]
  cases found : finite? text with
  | some x => simp
  | none =>
    have noInteger : int? text = none := by
      by_contra integral
      obtain ⟨integer, read⟩ := Option.ne_none_iff_exists'.mp integral
      exact finite?_ne_none read found
    have words : literal? text = (trimmedWord? text).map .bool := by
      rw [literal?, noInteger]
      rfl
    dsimp only
    rw [words]
    cases trimmedWord? text <;> simp

/-- A boolean word is a finite number of either type. -/
theorem transform?_bool_finite (word : Bool) :
    (∃ x, (Value.bool word).transform? .double = some (.double x) ∧ isFiniteDouble x = true) ∧
      ∃ x, (Value.bool word).transform? .float = some (.float x) ∧ isFiniteSingle x = true := by
  cases word
  · exact ⟨⟨_, rfl, by decide +kernel⟩, _, rfl, by decide +kernel⟩
  · exact ⟨⟨_, rfl, by decide +kernel⟩, _, rfl, by decide +kernel⟩

/-- What is read as a double is a finite double. -/
theorem floating?_double {text : List Char} {value : Value}
    (read : floating? text .double = some value) :
    ∃ x, value = .double x ∧ isFiniteDouble x = true := by
  rcases (floating?_eq_some_iff text .double value).mp read with ⟨x, found, kept⟩ | word
  · obtain rfl : Value.double x = value := Option.some.inj kept
    exact ⟨x, rfl, (Option.filter_eq_some_iff.mp found).2⟩
  · obtain ⟨_, word, _, converted⟩ := word
    obtain ⟨⟨x, same, finite⟩, _⟩ := transform?_bool_finite word
    exact ⟨x, Option.some.inj (converted.symm.trans same), finite⟩

/-- What is read as a single is a finite single, or an infinite one where the size that the text
measures lies between the limits of singles and of doubles. -/
theorem floating?_float {text : List Char} {value : Value}
    (read : floating? text .float = some value) :
    ∃ x, value = .float x ∧ (isFiniteSingle x = true ∨
      (∃ negative, BinaryNumber.ofSingle x = .infinite negative) ∧
        ∃ amount, Measures text amount ∧
          2 ^ 128 - 2 ^ 103 - 2 ^ 74 ≤ amount ∧ amount < 2 ^ 1024 - 2 ^ 970) := by
  rcases (floating?_eq_some_iff text .float value).mp read with ⟨x, found, kept⟩ | word
  · obtain rfl : Value.float (narrow x) = value := Option.some.inj kept
    obtain ⟨negative, mantissa, exponent, written, small, rfl⟩ :=
      (finite?_eq_some_iff text x).mp found
    obtain ⟨finite, infinite⟩ := Numeral.narrow_toDouble negative small
    have measured : Measures text (size mantissa exponent) :=
      (Decimal.measures_iff text _).mpr ⟨negative, mantissa, exponent, written, rfl⟩
    refine ⟨_, rfl, ?_⟩
    rcases lt_or_ge (size mantissa exponent) (2 ^ 128 - 2 ^ 103 - 2 ^ 74) with inside | reached
    · exact .inl (finite.mpr inside)
    · exact .inr ⟨⟨negative, infinite.mpr reached⟩, _, measured, reached, small⟩
  · obtain ⟨_, word, _, converted⟩ := word
    obtain ⟨_, x, same, finite⟩ := transform?_bool_finite word
    exact ⟨x, Option.some.inj (converted.symm.trans same), .inl finite⟩

/-- A text is read as an infinite single exactly when the size that it measures lies between the
limits of singles and of doubles. -/
theorem floating?_infinite_iff (text : List Char) :
    (∃ x negative, floating? text .float = some (.float x) ∧
        BinaryNumber.ofSingle x = .infinite negative) ↔
      ∃ amount, Measures text amount ∧
        2 ^ 128 - 2 ^ 103 - 2 ^ 74 ≤ amount ∧ amount < 2 ^ 1024 - 2 ^ 970 := by
  constructor
  · rintro ⟨x, negative, read, endless⟩
    obtain ⟨y, same, finite | ⟨_, measured⟩⟩ := floating?_float read
    · cases same
      rw [isFiniteSingle, endless] at finite
      cases finite
    · exact measured
  · rintro ⟨_, measured, reached, small⟩
    obtain ⟨negative, mantissa, exponent, written, rfl⟩ := (Decimal.measures_iff text _).mp measured
    refine ⟨_, negative, (floating?_eq_some_iff text .float _).mpr (.inl ⟨_, ?_, rfl⟩),
      (Numeral.narrow_toDouble negative small).2.mpr reached⟩
    exact (finite?_eq_some_iff text _).mpr ⟨negative, mantissa, exponent, written, small, rfl⟩

/-- A text is accepted for either type when it measures a size below the limit of doubles, or
is a boolean word. -/
theorem exists_floating?_iff (text : List Char) {type : ValueType}
    (floating : type ∈ [ValueType.float, .double]) :
    (∃ value, floating? text type = some value) ↔
      (∃ amount, Measures text amount ∧ amount < 2 ^ 1024 - 2 ^ 970) ∨
        ∃ word, trimmedWord? text = some word := by
  rw [← exists_finite?_iff]
  simp only [floating?_eq_some_iff]
  constructor
  · rintro ⟨value, ⟨x, found, _⟩ | ⟨_, word, named, _⟩⟩
    · exact .inl ⟨x, found⟩
    · exact .inr ⟨word, named⟩
  · intro given
    cases found : finite? text with
    | some x =>
      obtain ⟨value, same⟩ := Value.transform?_floating (.double x) rfl floating
      exact ⟨value, .inl ⟨x, rfl, same⟩⟩
    | none =>
      obtain ⟨x, impossible⟩ | ⟨word, named⟩ := given
      · rw [found] at impossible
        cases impossible
      · obtain ⟨value, same⟩ := Value.transform?_floating (.bool word) rfl floating
        exact ⟨value, .inr ⟨rfl, word, named, same⟩⟩

/-- A floating-point type reads by the rule of such types. -/
theorem read_floating (text : String) {type : ValueType}
    (floating : type ∈ [ValueType.float, .double]) :
    read text type = accepted type (floating? text.toList type) := by
  rcases List.mem_pair.mp floating with rfl | rfl
  · rfl
  · rfl

end Coerce

open Coerce (trimmedWord?)

/-- Every double that a text gives is finite. A single that a text gives is finite too, or
infinite, and it is infinite exactly when the size that the text measures lies between the limits
of singles and of doubles. A text is accepted for either type exactly when it measures a size
below the limit of doubles, or is a boolean word; any other text, words for infinity and NaN
included, is refused with the text and the type. -/
theorem coerce_floating_exact (text : String) :
    (∀ value, coerce text .double = .ok value →
      ∃ x, value = .double x ∧ isFiniteDouble x = true) ∧
    (∀ value, coerce text .float = .ok value →
      ∃ x, value = .float x ∧
        (isFiniteSingle x = true ∨ ∃ negative, BinaryNumber.ofSingle x = .infinite negative)) ∧
    ((∃ x negative, coerce text .float = .ok (.float x) ∧
        BinaryNumber.ofSingle x = .infinite negative) ↔
      ∃ amount, Measures text.toList amount ∧
        2 ^ 128 - 2 ^ 103 - 2 ^ 74 ≤ amount ∧ amount < 2 ^ 1024 - 2 ^ 970) ∧
    ∀ type ∈ [ValueType.float, .double],
      ((∃ value, coerce text type = .ok value) ↔
        (∃ amount, Measures text.toList amount ∧ amount < 2 ^ 1024 - 2 ^ 970) ∨
          ∃ word, trimmedWord? text.toList = some word) ∧
      ∀ refusal, coerce text type = .error refusal → refusal = .invalidValue text type := by
  have given {type : ValueType} (floating : type ∈ [ValueType.float, .double]) (value : Value) :
      coerce text type = .ok value ↔ Coerce.floating? text.toList type = some value := by
    rw [coerce_ok_iff, Coerce.read_floating text floating, Coerce.accepted_ok_iff]
  have single : ValueType.float ∈ [ValueType.float, .double] := List.mem_pair.mpr (.inl rfl)
  have double : ValueType.double ∈ [ValueType.float, .double] := List.mem_pair.mpr (.inr rfl)
  refine ⟨fun value read => ?_, fun value read => ?_, ?_, fun type floating => ⟨?_, ?_⟩⟩
  · exact Coerce.floating?_double ((given double value).mp read)
  · obtain ⟨x, same, outcome⟩ := Coerce.floating?_float ((given single value).mp read)
    exact ⟨x, same, outcome.imp_right And.left⟩
  · simp only [given single]
    exact Coerce.floating?_infinite_iff text.toList
  · simp only [given floating]
    exact Coerce.exists_floating?_iff text.toList floating
  · intro refusal refused
    obtain ⟨expected, read, rfl⟩ := coerce_error_iff.mp refused
    rw [Coerce.read_floating text floating, Coerce.accepted_error_iff] at read
    rw [read.2]

/-- A size between the limits gives an infinite single and a finite double. -/
theorem coerce_between_limits :
    Measures " -3.5e38".toList (35 * 10 ^ 37) ∧
    (2 ^ 128 - 2 ^ 103 - 2 ^ 74 : ℚ) ≤ 35 * 10 ^ 37 ∧
    (35 * 10 ^ 37 : ℚ) < 2 ^ 1024 - 2 ^ 970 ∧
    (∃ x negative, coerce " -3.5e38" .float = .ok (.float x) ∧
      BinaryNumber.ofSingle x = .infinite negative) ∧
    ∃ x, coerce " -3.5e38" .double = .ok (.double x) ∧ isFiniteDouble x = true := by
  have read : Numeral.parse? (Text.trim " -3.5e38".toList) = some (.finite true 35 37) := by
    decide
  have measured : Measures " -3.5e38".toList (35 * 10 ^ 37) :=
    (Decimal.measures_iff _ _).mpr ⟨true, 35, 37, read, by norm_num [size]⟩
  have reached : (2 ^ 128 - 2 ^ 103 - 2 ^ 74 : ℚ) ≤ 35 * 10 ^ 37 := by norm_num
  have gap : 35 * 10 ^ 37 + 2 ^ 970 < 2 ^ 1024 := by decide +kernel
  have small : (35 * 10 ^ 37 : ℚ) < 2 ^ 1024 - 2 ^ 970 :=
    lt_sub_iff_add_lt.mpr (by exact_mod_cast gap)
  obtain ⟨double, _, single, accepts⟩ := coerce_floating_exact " -3.5e38"
  obtain ⟨value, accepted⟩ := (accepts .double (by simp)).1.mpr (.inl ⟨_, measured, small⟩)
  obtain ⟨x, rfl, finite⟩ := double value accepted
  exact ⟨measured, reached, small, single.mpr ⟨_, measured, reached, small⟩, x, accepted, finite⟩

/-- A numeral beyond the singles is read as an infinite single, while a word for infinity is
refused. -/
theorem coerce_single_overflow :
    ∃ x, coerce "1e39" .float = .ok (.float x) ∧ isFiniteSingle x = false ∧
      coerce "inf" .float = .error (.invalidValue "inf" .float) :=
  ⟨narrow (Numeral.finite false 1 39).toDouble, by decide +kernel⟩

end ThemeMotion
