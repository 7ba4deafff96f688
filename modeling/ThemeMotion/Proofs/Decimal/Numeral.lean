import Mathlib.Algebra.Order.Field.Rat
import Mathlib.Data.List.Basic
import ThemeMotion.Decimal.Numeral
import ThemeMotion.Proofs.Text.Casing
import ThemeMotion.Proofs.Value.Spelling

/-!
# Numerals as they are written

A numeral is written as digits with an optional point among them or at either end, at least one
digit in all, with a sign ahead or none and with an exponent behind or none. What can be written
is laid down as data here, apart from the way in which texts are read. A text is read as a finite
numeral exactly when it is written so, and the numeral has the size that is written
(`Numeral.parse?_finite_iff`).

Which texts are words for infinity or NaN is not described; none of them is written with digits.
-/

namespace ThemeMotion.Decimal

open Coerce (cutSign cutSign_append cutSign_plain exists_sign)

/-- An exponent as it is written: a letter, and an integer without blanks. -/
structure WrittenExponent where
  letter : Char
  integer : WrittenInteger
  marked : letter = 'e' ∨ letter = 'E'
  close : integer.blanks = []

/-- The characters of an exponent, where there is one. -/
def exponentText : Option WrittenExponent → List Char
  | none => []
  | some written => written.letter :: written.integer.text

/-- The integer of an exponent, which is zero where there is none. -/
def exponentValue : Option WrittenExponent → ℤ
  | none => 0
  | some written => written.integer.value

/-- The characters of a fraction: a point and digits, where there is one. -/
def fractionText : Option (List Char) → List Char
  | none => []
  | some digits => '.' :: digits

/-- The number with a mantissa and an exponent of ten. -/
def size (mantissa : ℕ) (exponent : ℤ) : ℚ := mantissa * 10 ^ exponent

/-- A numeral as it is written behind its sign. -/
structure WrittenMagnitude where
  whole : List Char
  fraction : Option (List Char)
  exponent : Option WrittenExponent
  digit : ∀ c ∈ whole ++ fraction.getD [], c.isDigit = true
  filled : whole ++ fraction.getD [] ≠ []

namespace WrittenMagnitude

/-- The characters of a magnitude. -/
def text (written : WrittenMagnitude) : List Char :=
  written.whole ++ (fractionText written.fraction ++ exponentText written.exponent)

/-- All digits of a magnitude as one number. -/
def mantissa (written : WrittenMagnitude) : ℕ := value (written.whole ++ written.fraction.getD [])

/-- The power of ten that the last digit counts. -/
def power (written : WrittenMagnitude) : ℤ :=
  exponentValue written.exponent - (written.fraction.getD []).length

/-- The number that a magnitude denotes. -/
def size (written : WrittenMagnitude) : ℚ := Decimal.size written.mantissa written.power

end WrittenMagnitude

/-- A numeral as it is written. -/
structure WrittenNumeral extends WrittenMagnitude where
  sign : Sign

/-- The characters of a numeral. -/
def WrittenNumeral.characters (written : WrittenNumeral) : List Char :=
  written.sign.text ++ written.text

/-- Digits are cut off ahead of what does not begin with one. -/
theorem cut_digits {digits tail : List Char} (digit : ∀ c ∈ digits, c.isDigit = true)
    (stops : ∀ c ∈ tail.head?, c.isDigit = false) :
    (digits ++ tail).takeWhile Char.isDigit = digits ∧
      (digits ++ tail).dropWhile Char.isDigit = tail := by
  rw [List.takeWhile_append_of_pos digit, List.dropWhile_append_of_pos digit]
  cases tail with
  | nil => exact ⟨List.append_nil digits, rfl⟩
  | cons c rest =>
    have other : ¬ c.isDigit = true := by simp [stops c rfl]
    rw [List.takeWhile_cons_of_neg other, List.dropWhile_cons_of_neg other, List.append_nil]
    exact ⟨rfl, rfl⟩

/-- A text is cut into digits and what does not begin with one. -/
theorem exists_digits (text : List Char) :
    ∃ digits tail, text = digits ++ tail ∧ (∀ c ∈ digits, c.isDigit = true) ∧
      ∀ c ∈ tail.head?, c.isDigit = false := by
  refine ⟨text.takeWhile Char.isDigit, text.dropWhile Char.isDigit,
    List.takeWhile_append_dropWhile.symm, fun c => List.mem_takeWhile_imp, ?_⟩
  intro c first
  have stopped := List.head?_dropWhile_not Char.isDigit text
  rw [Option.mem_def.mp first] at stopped
  simpa using stopped

/-- Digits and a point are no signs. -/
theorem unsigned_of_digit_or_point {rest : List Char}
    (begins : ∀ c ∈ rest.head?, c.isDigit = true ∨ c = '.') :
    ∀ c ∈ rest.head?, c ≠ '-' ∧ c ≠ '+' := by
  intro c first
  rcases begins c first with digit | rfl
  · exact (isDigit_solid digit).2
  · decide

/-- Digits denote their number, and nothing else is read as a natural number. -/
theorem natural?_eq_some_iff (text : List Char) (n : ℕ) :
    natural? text = some n ↔
      text ≠ [] ∧ (∀ c ∈ text, c.isDigit = true) ∧ value text = n := by
  unfold natural?
  rw [Option.ite_none_right_eq_some]
  simp [and_assoc]

/-- An integer is read behind its sign. -/
theorem integer?_cut (text : List Char) :
    integer? text = (natural? (cutSign text).2).map (directed (cutSign text).1 ·) := by
  fun_cases integer? text with
  | case1 rest => cases read : natural? rest <;> simp [cutSign, read, directed]
  | case2 rest => cases read : natural? rest <;> simp [cutSign, read, directed]
  | case3 text noMinus noPlus =>
    rw [cutSign_plain noMinus noPlus]
    cases natural? text <;> rfl

/-- A text is read as an integer when it is a written integer without blanks. -/
theorem integer?_eq_some_iff (text : List Char) (n : ℤ) :
    integer? text = some n ↔
      ∃ written : WrittenInteger, written.blanks = [] ∧ written.text = text ∧
        written.value = n := by
  rw [integer?_cut, Option.map_eq_some_iff]
  constructor
  · rintro ⟨magnitude, read, rfl⟩
    obtain ⟨sign, negative, same⟩ := exists_sign text
    obtain ⟨filled, digit, rfl⟩ := (natural?_eq_some_iff _ magnitude).mp read
    rw [negative]
    exact ⟨⟨[], sign, _, List.forall_mem_nil _, digit, filled⟩, rfl, same.symm, rfl⟩
  · rintro ⟨⟨blanks, sign, digits, blank, digit, filled⟩, rfl, rfl, rfl⟩
    have begins : ∀ c ∈ digits.head?, c.isDigit = true ∨ c = '.' :=
      fun c first => .inl (digit c (List.mem_of_mem_head? first))
    have signed := cutSign_append sign (unsigned_of_digit_or_point begins)
    refine ⟨value digits, ?_, ?_⟩
    · rw [WrittenInteger.text, List.nil_append, signed]
      exact (natural?_eq_some_iff digits _).mpr ⟨filled, digit, rfl⟩
    · rw [WrittenInteger.text, List.nil_append, signed]
      rfl

namespace Numeral

/-- What follows the digits of a numeral is an exponent or nothing. -/
theorem exponent?_eq_some_iff (text : List Char) (n : ℤ) :
    exponent? text = some n ↔
      ∃ written, exponentText written = text ∧ exponentValue written = n := by
  cases text with
  | nil =>
    constructor
    · intro read
      exact ⟨none, rfl, Option.some.inj read⟩
    · rintro ⟨_ | written, same, rfl⟩
      · rfl
      · cases same
  | cons c rest =>
    rw [exponent?, Option.ite_none_right_eq_some, integer?_eq_some_iff]
    constructor
    · rintro ⟨marked, integer, close, rfl, rfl⟩
      exact ⟨some ⟨c, integer, marked, close⟩, rfl, rfl⟩
    · rintro ⟨_ | ⟨letter, integer, marked, close⟩, same, rfl⟩
      · cases same
      · cases same
        exact ⟨marked, integer, close, rfl, rfl⟩

/-- An exponent begins neither with a digit nor with a point. -/
theorem exponentText_head (written : Option WrittenExponent) :
    ∀ c ∈ (exponentText written).head?, c.isDigit = false ∧ c ≠ '.' := by
  rintro c first
  cases written with
  | none => cases first
  | some written =>
    cases first
    rcases written.marked with same | same <;> rw [same] <;> decide

/-- Digits that no point follows are read with the exponent behind them. -/
theorem unsigned?_whole (negative : Bool) {whole tail : List Char}
    (digit : ∀ c ∈ whole, c.isDigit = true)
    (stops : ∀ c ∈ tail.head?, c.isDigit = false ∧ c ≠ '.') :
    unsigned? negative (whole ++ tail) =
      if whole = [] then none
      else (exponent? tail).map (finite negative (value whole) ·) := by
  obtain ⟨taken, left⟩ := cut_digits digit fun c first => (stops c first).1
  unfold unsigned?
  simp only [taken, left]
  split
  · exact absurd rfl (stops '.' rfl).2
  · simp

/-- Digits around a point are read with the exponent behind them. -/
theorem unsigned?_point (negative : Bool) {whole fraction tail : List Char}
    (digit : ∀ c ∈ whole ++ fraction, c.isDigit = true)
    (stops : ∀ c ∈ tail.head?, c.isDigit = false) :
    unsigned? negative (whole ++ '.' :: (fraction ++ tail)) =
      if whole ++ fraction = [] then none
      else (exponent? tail).map fun exponent =>
        finite negative (value (whole ++ fraction)) (exponent - fraction.length) := by
  obtain ⟨digitBefore, digitBehind⟩ := List.forall_mem_append.mp digit
  have point : ∀ c ∈ ('.' :: (fraction ++ tail)).head?, c.isDigit = false := by
    rintro c ⟨⟩
    decide
  obtain ⟨taken, left⟩ := cut_digits digitBefore point
  obtain ⟨takenBehind, leftBehind⟩ := cut_digits digitBehind stops
  unfold unsigned?
  simp only [taken, left, takenBehind, leftBehind]
  simp [List.append_eq_nil_iff]

/-- Where digits stop and no point follows, neither a digit nor a point follows. -/
theorem plain_of_unpointed {behind : List Char} (stops : ∀ c ∈ behind.head?, c.isDigit = false)
    (unpointed : ¬ ∃ rest, behind = '.' :: rest) :
    ∀ c ∈ behind.head?, c.isDigit = false ∧ c ≠ '.' := by
  intro c first
  refine ⟨stops c first, ?_⟩
  rintro rfl
  exact unpointed ⟨_, List.eq_cons_of_mem_head? first⟩

/-- What is read without a sign is a written magnitude. -/
theorem exists_written {negative : Bool} {text : List Char} {numeral : Numeral}
    (read : unsigned? negative text = some numeral) :
    ∃ written : WrittenMagnitude, written.text = text ∧
      finite negative written.mantissa written.power = numeral := by
  obtain ⟨whole, behind, rfl, digit, stops⟩ := exists_digits text
  by_cases pointed : ∃ rest, behind = '.' :: rest
  · obtain ⟨rest, rfl⟩ := pointed
    obtain ⟨fraction, tail, rfl, digitBehind, stopsBehind⟩ := exists_digits rest
    have digits := List.forall_mem_append.mpr ⟨digit, digitBehind⟩
    rw [unsigned?_point negative digits stopsBehind, Option.ite_none_left_eq_some,
      Option.map_eq_some_iff] at read
    obtain ⟨filled, exponent, found, rfl⟩ := read
    obtain ⟨written, rfl, rfl⟩ := (exponent?_eq_some_iff tail exponent).mp found
    exact ⟨⟨whole, some fraction, written, digits, filled⟩, rfl, rfl⟩
  · have plain := plain_of_unpointed stops pointed
    rw [unsigned?_whole negative digit plain, Option.ite_none_left_eq_some,
      Option.map_eq_some_iff] at read
    obtain ⟨filled, exponent, found, rfl⟩ := read
    obtain ⟨written, rfl, rfl⟩ := (exponent?_eq_some_iff behind exponent).mp found
    refine ⟨⟨whole, none, written, ?_, ?_⟩, rfl, ?_⟩
    · rwa [Option.getD_none, List.append_nil]
    · rwa [Option.getD_none, List.append_nil]
    · simp [WrittenMagnitude.mantissa, WrittenMagnitude.power]

/-- A written magnitude is read without a sign. -/
theorem unsigned?_written (negative : Bool) (written : WrittenMagnitude) :
    unsigned? negative written.text = some (finite negative written.mantissa written.power) := by
  obtain ⟨whole, fraction, exponent, digit, filled⟩ := written
  have found := (exponent?_eq_some_iff _ _).mpr ⟨exponent, rfl, rfl⟩
  cases fraction with
  | none =>
    rw [Option.getD_none, List.append_nil] at digit filled
    rw [WrittenMagnitude.text, fractionText, List.nil_append,
      unsigned?_whole negative digit (exponentText_head exponent), if_neg filled, found]
    simp [WrittenMagnitude.mantissa, WrittenMagnitude.power]
  | some fraction =>
    have stops : ∀ c ∈ (exponentText exponent).head?, c.isDigit = false :=
      fun c first => (exponentText_head exponent c first).1
    have read := unsigned?_point negative digit stops
    rw [if_neg filled, found] at read
    exact read

/-- A written magnitude begins with a digit or a point. -/
theorem text_begins (written : WrittenMagnitude) :
    ∃ first rest, written.text = first :: rest ∧ (first.isDigit = true ∨ first = '.') := by
  obtain ⟨whole, fraction, exponent, digit, filled⟩ := written
  cases whole with
  | cons first rest => exact ⟨first, _, rfl, .inl (digit first List.mem_cons_self)⟩
  | nil =>
    cases fraction with
    | none => exact absurd rfl filled
    | some fraction => exact ⟨'.', _, rfl, .inr rfl⟩

/-- Digits and points are left as they are in lower case. -/
theorem toLower_of_digit_or_point {c : Char} (begins : c.isDigit = true ∨ c = '.') :
    c.toLower = c := by
  rcases begins with digit | rfl
  · exact Text.toLower_digit digit
  · decide

/-- A written magnitude is no word for infinity or NaN, so it is read as it is written. -/
theorem magnitude?_written (negative : Bool) (written : WrittenMagnitude) :
    magnitude? negative written.text =
      some (finite negative written.mantissa written.power) := by
  obtain ⟨first, rest, same, begins⟩ := text_begins written
  have other (c : Char) (word : List Char) (letter : c.isDigit = false ∧ c ≠ '.') :
      Text.lower written.text ≠ c :: word := by
    intro named
    rw [same, Text.lower, List.map_cons, toLower_of_digit_or_point begins] at named
    obtain ⟨rfl, _⟩ := List.cons.inj named
    rcases begins with digit | point
    · rw [digit] at letter
      cases letter.1
    · exact letter.2 point
  have nan : Text.lower written.text ≠ "nan".toList :=
    other 'n' ['a', 'n'] (by decide)
  have short : Text.lower written.text ≠ "inf".toList :=
    other 'i' ['n', 'f'] (by decide)
  have long : Text.lower written.text ≠ "infinity".toList :=
    other 'i' ['n', 'f', 'i', 'n', 'i', 't', 'y'] (by decide)
  unfold magnitude?
  dsimp only
  rw [if_neg nan, if_neg (not_or.mpr ⟨short, long⟩), unsigned?_written]

/-- A numeral is read behind its sign. -/
theorem parse?_cut (text : List Char) :
    parse? text = magnitude? (cutSign text).1 (cutSign text).2 := by
  fun_cases parse? text with
  | case1 rest => rfl
  | case2 rest => rfl
  | case3 text noMinus noPlus => rw [cutSign_plain noMinus noPlus]

/-- A text is read as a finite numeral exactly when it is written as one, and its sign, its
digits and its power of ten are those that are written. -/
theorem parse?_finite_iff (text : List Char) (negative : Bool) (mantissa : ℕ) (exponent : ℤ) :
    parse? text = some (finite negative mantissa exponent) ↔
      ∃ written : WrittenNumeral, written.characters = text ∧
        written.sign.negative = negative ∧ written.mantissa = mantissa ∧
        written.power = exponent := by
  rw [parse?_cut]
  constructor
  · intro read
    obtain ⟨sign, signed, same⟩ := exists_sign text
    have unsigned : unsigned? (cutSign text).1 (cutSign text).2 =
        some (finite negative mantissa exponent) := by
      unfold magnitude? at read
      dsimp only at read
      split_ifs at read
      · cases read
      · cases read
      · exact read
    obtain ⟨written, rest, numeral⟩ := exists_written unsigned
    cases numeral
    exact ⟨⟨written, sign⟩, by rw [WrittenNumeral.characters, rest, ← same], signed.symm, rfl, rfl⟩
  · rintro ⟨⟨written, sign⟩, rfl, rfl, rfl, rfl⟩
    obtain ⟨first, rest, same, begins⟩ := text_begins written
    have unsigned : ∀ c ∈ written.text.head?, c ≠ '-' ∧ c ≠ '+' := by
      apply unsigned_of_digit_or_point
      rw [same]
      rintro c ⟨⟩
      exact begins
    rw [WrittenNumeral.characters, cutSign_append sign unsigned]
    exact magnitude?_written sign.negative written

end Numeral

/-- A text is a numeral of the given size under some sign. Blanks around it do not count. -/
def Measures (text : List Char) (amount : ℚ) : Prop :=
  ∃ written : WrittenNumeral, written.characters = Text.trim text ∧ written.size = amount

/-- The measured texts are those that are read as finite numerals. -/
theorem measures_iff (text : List Char) (amount : ℚ) :
    Measures text amount ↔
      ∃ negative mantissa exponent,
        Numeral.parse? (Text.trim text) = some (.finite negative mantissa exponent) ∧
          size mantissa exponent = amount := by
  simp only [Numeral.parse?_finite_iff]
  constructor
  · rintro ⟨written, same, sized⟩
    exact ⟨_, _, _, ⟨written, same, rfl, rfl, rfl⟩, sized⟩
  · rintro ⟨_, _, _, ⟨written, same, rfl, rfl, rfl⟩, sized⟩
    exact ⟨written, same, sized⟩

/-- A written integer measures its distance from zero. -/
theorem measures_of_spells {text : List Char} {n : ℤ} (spelled : Spells text n) :
    Measures text n.natAbs := by
  obtain ⟨⟨blanks, sign, digits, blank, digit, filled⟩, rfl, rfl⟩ := spelled
  have solid : ∀ c ∈ sign.text ++ digits, Text.isBlank c = false := by
    intro c member
    rcases List.mem_append.mp member with signed | among
    · cases sign with
      | absent => cases signed
      | plus =>
        obtain rfl := List.mem_singleton.mp signed
        decide
      | minus =>
        obtain rfl := List.mem_singleton.mp signed
        decide
    · exact (isDigit_solid (digit c among)).1
  have magnitude : (directed sign.negative (value digits)).natAbs = value digits := by
    unfold directed
    split <;> simp
  refine ⟨⟨⟨digits, none, none, by simpa using digit, by simpa using filled⟩, sign⟩, ?_, ?_⟩
  · rw [WrittenInteger.text, Text.trim_blanks_append blank solid]
    simp [WrittenNumeral.characters, WrittenMagnitude.text, fractionText, exponentText]
  · rw [WrittenInteger.value, magnitude]
    simp [WrittenMagnitude.size, size, WrittenMagnitude.mantissa, WrittenMagnitude.power,
      exponentValue]

end ThemeMotion.Decimal
