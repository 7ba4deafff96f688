import ThemeMotion.Json.Number
import ThemeMotion.Proofs.Decimal.Numeral

/-!
# Whole numbers that read back

The digits of a number have no idle zero in front, so they are the whole part of a written
number. Where no fraction and no exponent can follow, nothing else is read, and a number
that a 64-bit word holds is taken exactly.
-/

namespace ThemeMotion.Json

open Decimal (digits)

/-- What follows a number does not go on with it. -/
def EndsNumber (rest : List Char) : Prop :=
  ∀ c ∈ rest.head?, c.isDigit = false ∧ c ≠ '.' ∧ c ≠ 'e' ∧ c ≠ 'E'

/-- At the end of a text a number ends. -/
theorem endsNumber_nil : EndsNumber [] := by
  rintro c ⟨⟩

/-- The character behind a number decides whether it ends there. -/
theorem endsNumber_cons {c : Char} (other : c.isDigit = false ∧ c ≠ '.' ∧ c ≠ 'e' ∧ c ≠ 'E')
    (rest : List Char) : EndsNumber (c :: rest) := by
  rintro _ ⟨⟩
  exact other

/-- The parts of a whole number in decimal. -/
def wholeParts (n : Int) : NumberParts := ⟨decide (n < 0), digits n.natAbs, [], none⟩

/-- The digits of a number are its whole part. -/
theorem wholePart?_digits (n : Nat) {rest : List Char} (ends : EndsNumber rest) :
    wholePart? (digits n ++ rest) = some (digits n, rest) := by
  obtain ⟨taken, left⟩ := Decimal.cut_digits (Decimal.digits_isDigit n)
    (fun c first => (ends c first).1)
  have read : someDigits? (digits n ++ rest) = some (digits n, rest) := by
    simp [someDigits?, splitDigits, taken, left, Decimal.digits_ne_nil]
  unfold wholePart?
  rw [read]
  split
  · next idle =>
    have zero : digits n = '0' :: _ := congrArg Prod.fst (Option.some.inj idle)
    cases Decimal.digits_zero zero
  · rfl

/-- Without a point there is no fraction. -/
theorem fractionPart?_none {rest : List Char} (ends : EndsNumber rest) :
    fractionPart? rest = some ([], rest) := by
  unfold fractionPart?
  split
  · exact absurd rfl (ends '.' rfl).2.1
  · rfl

/-- Without its letter there is no exponent. -/
theorem exponentPart?_none {rest : List Char} (ends : EndsNumber rest) :
    exponentPart? rest = some (none, rest) := by
  cases rest with
  | nil => rfl
  | cons c rest =>
    obtain ⟨_, _, small, great⟩ := ends c rfl
    exact if_neg (not_or.mpr ⟨small, great⟩)

/-- Digits alone are a number without fraction and exponent. -/
theorem unsignedParts?_digits (negative : Bool) (n : Nat) {rest : List Char}
    (ends : EndsNumber rest) :
    unsignedParts? negative (digits n ++ rest) = some (⟨negative, digits n, [], none⟩, rest) := by
  simp [unsignedParts?, wholePart?_digits n ends, fractionPart?_none ends,
    exponentPart?_none ends]

/-- A whole number is written with its sign and its digits. -/
theorem integer_toList (n : Int) :
    (Decimal.integer n).toList = (if n < 0 then ['-'] else []) ++ digits n.natAbs := by
  cases n <;> simp [Decimal.integer, Decimal.natural]

/-- A whole number begins with a sign or a digit. -/
theorem integer_begins (n : Int) :
    ∃ c rest, (Decimal.integer n).toList = c :: rest ∧ (c = '-' ∨ c.isDigit = true) := by
  obtain ⟨first, others, front, digit⟩ := Decimal.digits_front n.natAbs
  rw [integer_toList, front]
  split
  · exact ⟨'-', first :: others, rfl, .inl rfl⟩
  · exact ⟨first, others, rfl, .inr digit⟩

/-- A whole number is read back in its parts, up to where it ends. -/
theorem numberParts?_integer (n : Int) {rest : List Char} (ends : EndsNumber rest) :
    numberParts? ((Decimal.integer n).toList ++ rest) = some (wholeParts n, rest) := by
  rw [integer_toList]
  by_cases negative : n < 0
  · rw [if_pos negative, wholeParts, decide_eq_true negative]
    exact unsignedParts?_digits true n.natAbs ends
  · rw [if_neg negative, wholeParts, decide_eq_false negative, List.nil_append]
    unfold numberParts?
    split
    · next signed =>
      obtain ⟨first, others, front, digit⟩ := Decimal.digits_front n.natAbs
      rw [front] at signed
      obtain rfl : first = '-' := (List.cons.inj signed).1
      cases digit
    · exact unsignedParts?_digits false n.natAbs ends

/-- A whole number is read back as it is written, up to where it ends. -/
theorem lexeme?_integer (n : Int) {rest : List Char} (ends : EndsNumber rest) :
    lexeme? ((Decimal.integer n).toList ++ rest) = some ((Decimal.integer n).toList, rest) := by
  unfold lexeme?
  rw [numberParts?_integer n ends, Option.map_some]
  simp

/-- A whole number that a signed or an unsigned word holds denotes itself. -/
theorem number?_integer {n : Int} (lower : -(largestNegative : Int) ≤ n)
    (upper : n ≤ largestWord) :
    number? (Decimal.integer n).toList = some (.whole n) := by
  have parts : numberParts? (Decimal.integer n).toList = some (wholeParts n, []) := by
    have read := numberParts?_integer n endsNumber_nil
    rwa [List.append_nil] at read
  have exactly : (wholeParts n).whole? = some n := by
    unfold wholeParts NumberParts.whole?
    simp only [List.isEmpty_nil, Bool.not_true, Option.isSome_none, Bool.or_self,
      Bool.false_eq_true, if_false, Decimal.value_digits, decide_eq_true_eq]
    by_cases negative : n < 0
    · rw [if_pos negative, if_pos (by omega), Option.some.injEq]
      omega
    · rw [if_neg negative, if_pos (by omega), Option.some.injEq]
      omega
  unfold number?
  rw [parts]
  simp [NumberParts.number?, exactly]

end ThemeMotion.Json
