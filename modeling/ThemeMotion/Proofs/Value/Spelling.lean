import Mathlib.Algebra.Group.Int.Defs
import Mathlib.Data.List.TakeWhile
import ThemeMotion.Proofs.Decimal.Digits
import ThemeMotion.Value.Coerce

/-!
# Integers as they are written

An integer is written as at least one digit, with a sign ahead or none, and with any number
of blanks ahead of these. What can be written is laid down as data, and `Spells` says which
integer a text is then. How texts are read plays no part in it.

Reading grows a word digit by digit and gives up at the first step that leaves the range of
words. Since a number grows in the direction of its sign only, such a step occurs exactly
when the whole number lies outside the range, at either end: `accumulate?_eq_some_iff`.

Unsigned integers are read as signed words first, so the words of their upper half have no
text (`coerce_uint_exact`). Enumerations and flag sets, whose texts may also be integers, are
not treated here.
-/

namespace ThemeMotion

namespace Decimal

/-- A number of the given magnitude, below zero when it is negative. -/
def directed (negative : Bool) (magnitude : Nat) : Int :=
  if negative then -(magnitude : Int) else magnitude

/-- What can stand ahead of digits as their sign. -/
inductive Sign where
  | absent
  | plus
  | minus
deriving DecidableEq, Repr

namespace Sign

/-- The characters of a sign. -/
def text : Sign → List Char
  | absent => []
  | plus => ['+']
  | minus => ['-']

/-- Only a minus makes a number negative. -/
def negative : Sign → Bool
  | minus => true
  | _ => false

end Sign

/-- An integer as it is written. -/
structure WrittenInteger where
  blanks : List Char
  sign : Sign
  digits : List Char
  blank : ∀ c ∈ blanks, Text.isBlank c = true
  digit : ∀ c ∈ digits, c.isDigit = true
  filled : digits ≠ []

namespace WrittenInteger

/-- The characters of a written integer. -/
def text (written : WrittenInteger) : List Char :=
  written.blanks ++ (written.sign.text ++ written.digits)

/-- The integer that is written. -/
def value (written : WrittenInteger) : Int :=
  directed written.sign.negative (Decimal.value written.digits)

end WrittenInteger

/-- A text consists of an integer as it is written, and of nothing else. -/
def Spells (text : List Char) (n : Int) : Prop :=
  ∃ written : WrittenInteger, written.text = text ∧ written.value = n

/-- A digit is neither a blank nor a sign. -/
theorem isDigit_solid {c : Char} (digit : c.isDigit = true) :
    Text.isBlank c = false ∧ c ≠ '-' ∧ c ≠ '+' := by
  refine ⟨?_, ?_, ?_⟩
  · have range := (isDigit_iff c).mp digit
    simp only [Text.isBlank, Text.blankRanges, List.any_cons, List.any_nil, Bool.or_false,
      Bool.or_eq_false_iff, Bool.and_eq_false_iff, decide_eq_false_iff_not]
    omega
  · rintro rfl
    exact absurd digit (by decide)
  · rintro rfl
    exact absurd digit (by decide)

/-- A text of digits takes one byte for each. -/
theorem byteLength_digits {digits : List Char} (digit : ∀ c ∈ digits, c.isDigit = true) :
    Text.byteLength digits = digits.length := by
  induction digits with
  | nil => rfl
  | cons c rest inductionHypothesis =>
    have range := (isDigit_iff c).mp (digit c List.mem_cons_self)
    have single : c.utf8Size = 1 := by
      rw [Char.utf8Size_eq_one_iff, UInt32.le_iff_toNat_le]
      exact Nat.le_trans range.2 (by decide)
    rw [Text.byteLength_cons, single, List.length_cons,
      inductionHypothesis fun other member => digit other (List.mem_cons_of_mem c member),
      Nat.add_comm]

/-- A number ten times as great. -/
theorem directed_shifted (negative : Bool) (magnitude : Nat) :
    directed negative magnitude * 10 = directed negative (10 * magnitude) := by
  cases negative <;> simp only [directed, if_true, if_false, Bool.false_eq_true] <;> omega

/-- A further amount is taken away from a negative number and added to another one. -/
theorem directed_sum (negative : Bool) (magnitude amount : Nat) :
    directed negative (magnitude + amount) =
      if negative then directed negative magnitude - amount
      else directed negative magnitude + amount := by
  cases negative <;> simp only [directed, if_true, if_false, Bool.false_eq_true] <;> omega

/-- A number nearer to zero than that of a word has a word too. -/
theorem nearer_word {negative : Bool} {shorter longer : Nat} {word : Int64}
    (nearer : shorter ≤ longer) (denotes : word.toInt = directed negative longer) :
    ∃ other : Int64, directed negative shorter = other.toInt := by
  have lower := word.le_toInt
  have upper := word.toInt_lt
  rw [denotes] at lower upper
  rw [Word.exists_int64_iff]
  cases negative <;>
    simp only [directed, if_true, if_false, Bool.false_eq_true] at lower upper ⊢ <;> omega

end Decimal

namespace Coerce

open Decimal (directed digitValue value Sign WrittenInteger Spells)

/-- A word grows by a digit exactly to the word of the longer number, where one exists: the
number ten times as great lies between the two, so it has a word too. -/
theorem extend?_eq_some_iff {negative : Bool} {magnitude : Nat} {word : Int64}
    (denotes : word.toInt = directed negative magnitude) (digit : Char) (grown : Int64) :
    extend? negative word digit = some grown ↔
      grown.toInt = directed negative (10 * magnitude + digitValue digit) := by
  simp only [extend?, Option.bind_eq_bind, Option.bind_eq_some_iff, Word.int64?_eq_some,
    denotes, Decimal.directed_shifted]
  constructor
  · rintro ⟨tens, shifted, summed⟩
    rw [← summed, ← shifted, Decimal.directed_sum]
  · intro final
    obtain ⟨tens, shifted⟩ := Decimal.nearer_word (Nat.le_add_right _ _) final
    refine ⟨tens, shifted, ?_⟩
    rw [final, ← shifted, Decimal.directed_sum]

/-- Digits give a word exactly when the word denotes their number in the given direction. So
growth stops short exactly when no word denotes the whole number.

Induction on the digits from the last one, with the word before it left open. -/
theorem accumulate?_eq_some_iff (negative : Bool) (digits : List Char) (word : Int64) :
    accumulate? negative digits = some word ↔
      word.toInt = directed negative (value digits) := by
  induction digits using List.reverseRecOn generalizing word with
  | nil =>
    have nothing : directed negative (value []) = (0 : Int64).toInt := by
      cases negative <;> rfl
    rw [nothing, Int64.toInt_inj]
    exact Option.some_inj.trans eq_comm
  | append_singleton digits digit inductionHypothesis =>
    have grows : accumulate? negative (digits ++ [digit]) =
        accumulate? negative digits >>= fun shorter => extend? negative shorter digit := by
      simp [accumulate?, List.foldlM_append]
    rw [grows, Option.bind_eq_bind, Option.bind_eq_some_iff, Decimal.value_concat]
    constructor
    · rintro ⟨shorter, earlier, last⟩
      exact (extend?_eq_some_iff ((inductionHypothesis shorter).mp earlier) digit word).mp last
    · intro final
      have nearer : value digits ≤ 10 * value digits + digitValue digit := by omega
      obtain ⟨shorter, denotes⟩ := Decimal.nearer_word nearer final
      exact ⟨shorter, (inductionHypothesis shorter).mpr denotes.symm,
        (extend?_eq_some_iff denotes.symm digit word).mpr final⟩

/-- A text is cut into a sign or none and the rest. -/
theorem exists_sign (text : List Char) :
    ∃ sign : Sign, (cutSign text).1 = sign.negative ∧ text = sign.text ++ (cutSign text).2 := by
  unfold cutSign
  split
  · exact ⟨.minus, rfl, rfl⟩
  · exact ⟨.plus, rfl, rfl⟩
  · exact ⟨.absent, rfl, rfl⟩

/-- A text without a sign is left as it is. -/
theorem cutSign_plain {text : List Char} (noMinus : ∀ rest, text = '-' :: rest → False)
    (noPlus : ∀ rest, text = '+' :: rest → False) : cutSign text = (false, text) := by
  unfold cutSign
  split
  · exact (noMinus _ rfl).elim
  · exact (noPlus _ rfl).elim
  · rfl

/-- A sign is cut off ahead of what does not begin with one. -/
theorem cutSign_append (sign : Sign) {rest : List Char}
    (unsigned : ∀ c ∈ rest.head?, c ≠ '-' ∧ c ≠ '+') :
    cutSign (sign.text ++ rest) = (sign.negative, rest) := by
  cases sign with
  | absent =>
    apply cutSign_plain
    · rintro _ rfl
      exact (unsigned '-' rfl).1 rfl
    · rintro _ rfl
      exact (unsigned '+' rfl).2 rfl
  | plus => rfl
  | minus => rfl

/-- A text is cut into its leading blanks, a sign or none, and the rest. -/
theorem cutSign_cut (text : List Char) :
    ∃ sign : Sign, (cutSign (Text.trimStart text)).1 = sign.negative ∧
      text = text.takeWhile Text.isBlank ++
        (sign.text ++ (cutSign (Text.trimStart text)).2) := by
  obtain ⟨sign, negative, same⟩ := exists_sign (Text.trimStart text)
  refine ⟨sign, negative, ?_⟩
  rw [← same]
  exact List.takeWhile_append_dropWhile.symm

/-- The blanks and the sign of a written integer are cut off. -/
theorem cutSign_written (written : WrittenInteger) :
    cutSign (Text.trimStart written.text) = (written.sign.negative, written.digits) := by
  obtain ⟨first, rest, begins⟩ := List.exists_cons_of_ne_nil written.filled
  have member : first ∈ written.digits := by
    rw [begins]
    exact List.mem_cons_self
  obtain ⟨solid, other⟩ := Decimal.isDigit_solid (written.digit first member)
  have trimmed : Text.trimStart written.text = written.sign.text ++ written.digits := by
    rw [Text.trimStart, WrittenInteger.text, List.dropWhile_append_of_pos written.blank, begins]
    cases written.sign with
    | absent => exact List.dropWhile_cons_of_neg (by simp [solid])
    | plus => rfl
    | minus => rfl
  rw [trimmed]
  apply cutSign_append
  rw [begins]
  rintro c ⟨⟩
  exact other

/-- The bytes up to the last digit are all bytes of a text exactly when its number consists
of digits alone. -/
theorem consumed_iff {text number : List Char} (ends : number <:+ text) :
    Text.byteLength text - Text.byteLength number +
        (number.takeWhile Char.isDigit).length = Text.byteLength text ↔
      number.takeWhile Char.isDigit = number := by
  obtain ⟨before, rfl⟩ := ends
  have digits : Text.byteLength (number.takeWhile Char.isDigit) =
      (number.takeWhile Char.isDigit).length :=
    Decimal.byteLength_digits fun c member => List.mem_takeWhile_imp member
  have whole : Text.byteLength number = Text.byteLength (number.takeWhile Char.isDigit) +
      Text.byteLength (number.dropWhile Char.isDigit) := by
    rw [← Text.byteLength_append, List.takeWhile_append_dropWhile]
  have filled : number.takeWhile Char.isDigit = number ↔
      Text.byteLength (number.dropWhile Char.isDigit) = 0 := by
    rw [Text.byteLength_eq_zero_iff, List.takeWhile_eq_self_iff, List.dropWhile_eq_nil_iff]
  rw [filled, Text.byteLength_append]
  omega

/-- A text is read as a word exactly when it is a written integer that the word denotes. -/
theorem int?_eq_some_iff (text : List Char) (word : Int64) :
    int? text = some word ↔ Spells text word.toInt := by
  constructor
  · intro read
    obtain ⟨sign, directs, cut⟩ := cutSign_cut text
    have ends : (cutSign (Text.trimStart text)).2 <:+ text :=
      ⟨text.takeWhile Text.isBlank ++ sign.text, by rw [List.append_assoc]; exact cut.symm⟩
    unfold int? at read
    generalize cutSign (Text.trimStart text) = signed at read directs cut ends
    obtain ⟨negative, number⟩ := signed
    obtain rfl : negative = sign.negative := directs
    simp only [Option.bind_eq_bind, Option.ite_none_left_eq_some, Option.bind_eq_some_iff,
      Option.ite_none_right_eq_some, List.isEmpty_iff] at read
    obtain ⟨filled, grown, accumulated, consumed, same⟩ := read
    obtain rfl := Option.some.inj same
    have digits := (consumed_iff ends).mp consumed
    rw [digits] at filled accumulated
    refine ⟨⟨text.takeWhile Text.isBlank, sign, number, fun c => List.mem_takeWhile_imp,
      List.takeWhile_eq_self_iff.mp digits, filled⟩, cut.symm, ?_⟩
    exact ((accumulate?_eq_some_iff sign.negative number grown).mp accumulated).symm
  · rintro ⟨written, rfl, denotes⟩
    have digits : written.digits.takeWhile Char.isDigit = written.digits :=
      List.takeWhile_eq_self_iff.mpr written.digit
    have ends : written.digits <:+ written.text :=
      ⟨written.blanks ++ written.sign.text, List.append_assoc ..⟩
    have consumed := (consumed_iff ends).mpr digits
    have accumulated := (accumulate?_eq_some_iff written.sign.negative written.digits word).mpr
      denotes.symm
    unfold int?
    rw [cutSign_written]
    simp only [digits] at consumed ⊢
    rw [if_neg (by simpa using written.filled), accumulated]
    simp only [Option.bind_eq_bind, Option.bind_some, if_pos consumed]

/-- A text spells one integer at most. -/
theorem spells_unique {text : List Char} {n other : Int} (spelled : Spells text n)
    (again : Spells text other) : n = other := by
  obtain ⟨written, rfl, rfl⟩ := spelled
  obtain ⟨second, same, rfl⟩ := again
  have cut := cutSign_written written
  rw [← same, cutSign_written second] at cut
  obtain ⟨signs, digits⟩ := Prod.mk.inj cut
  rw [WrittenInteger.value, WrittenInteger.value, signs, digits]

end Coerce

namespace Decimal

/-- Zeros ahead of digits do not change their number. -/
theorem value_zeros (zeros : Nat) (text : List Char) :
    value (List.replicate zeros '0' ++ text) = value text := by
  induction zeros with
  | zero => rfl
  | succ zeros inductionHypothesis => exact inductionHypothesis

/-- Under a sign, a number spells itself in decimal, behind any number of zeros. -/
theorem spells_digits (sign : Sign) (zeros magnitude : Nat) :
    Spells (sign.text ++ (List.replicate zeros '0' ++ digits magnitude))
      (directed sign.negative magnitude) := by
  refine ⟨⟨[], sign, List.replicate zeros '0' ++ digits magnitude, by simp, ?_, ?_⟩, rfl, ?_⟩
  · intro c member
    rcases List.mem_append.mp member with zero | digit
    · rw [List.eq_of_mem_replicate zero]
      rfl
    · exact digits_isDigit magnitude c digit
  · exact List.append_ne_nil_of_right_ne_nil _ (digits_ne_nil magnitude)
  · rw [WrittenInteger.value, value_zeros, value_digits]

/-- A natural number in decimal spells itself. -/
theorem spells_natural (n : Nat) : Spells (natural n).toList n := by
  rw [natural, String.toList_ofList]
  exact spells_digits .absent 0 n

/-- An integer in decimal spells itself. -/
theorem spells_integer (n : Int) : Spells (integer n).toList n := by
  cases n with
  | ofNat n => exact spells_natural n
  | negSucc n =>
    rw [integer, String.toList_ofList]
    exact spells_digits .minus 0 (n + 1)

end Decimal

open Decimal (Sign Spells directed)

/-- An integer text is accepted with a word exactly when it spells the word's integer. -/
theorem coerceInt_ok_iff (text : String) (word : Int64) :
    coerceInt text = .ok word ↔ Spells text.toList word.toInt := by
  rw [← Coerce.int?_eq_some_iff, coerceInt]
  cases Coerce.int? text.toList <;> simp

/-- A text is read as an integer exactly when it spells one that a word denotes. -/
theorem exists_int?_iff (text : List Char) :
    (∃ word, Coerce.int? text = some word) ↔
      ∃ n, Spells text n ∧ -2 ^ 63 ≤ n ∧ n ≤ 2 ^ 63 - 1 := by
  simp only [Coerce.int?_eq_some_iff]
  constructor
  · rintro ⟨word, spelled⟩
    exact ⟨word.toInt, spelled, (Word.exists_int64_iff _).mp ⟨word, rfl⟩⟩
  · rintro ⟨n, spelled, range⟩
    obtain ⟨word, rfl⟩ := (Word.exists_int64_iff n).mpr range
    exact ⟨word, spelled⟩

/-- The integer texts are exactly the written integers from `-2^63` to `2^63 - 1`: blanks, a
sign or none, and digits to the end, of which at least one. The word denotes the integer that
is written, and every other text is refused as a whole. So zeros ahead of the digits do not
matter, and every word, the least and the greatest included, is read from its decimal text. -/
theorem coerceInt_exact :
    (∀ (text : String) (word : Int64),
      coerceInt text = .ok word ↔ Spells text.toList word.toInt) ∧
    (∀ text : String, (∃ word, coerceInt text = .ok word) ↔
      ∃ n, Spells text.toList n ∧ -2 ^ 63 ≤ n ∧ n ≤ 2 ^ 63 - 1) ∧
    (∀ (text : String) (refusal : ValueError), coerceInt text = .error refusal ↔
      refusal = .invalidValue text .int ∧
        ¬ ∃ n, Spells text.toList n ∧ -2 ^ 63 ≤ n ∧ n ≤ 2 ^ 63 - 1) ∧
    (∀ (sign : Sign) (zeros magnitude : Nat) (word : Int64),
      coerceInt (String.ofList
        (sign.text ++ (List.replicate zeros '0' ++ Decimal.digits magnitude))) = .ok word ↔
        word.toInt = directed sign.negative magnitude) ∧
    ∀ word : Int64, coerceInt (Decimal.integer word.toInt) = .ok word := by
  refine ⟨coerceInt_ok_iff, ?_, ?_, ?_, ?_⟩
  · intro text
    simp only [← exists_int?_iff, coerceInt_ok_iff, Coerce.int?_eq_some_iff]
  · intro text refusal
    rw [← exists_int?_iff, coerceInt]
    cases Coerce.int? text.toList <;> simp [eq_comm]
  · intro sign zeros magnitude word
    rw [coerceInt_ok_iff, String.toList_ofList]
    have spelled := Decimal.spells_digits sign zeros magnitude
    constructor
    · intro accepted
      exact Coerce.spells_unique accepted spelled
    · intro denotes
      exact denotes ▸ spelled
  · intro word
    exact (coerceInt_ok_iff _ word).mpr (Decimal.spells_integer word.toInt)

/-- The least word behind wide blanks, and the first integer beyond it. -/
example : coerceInt "\u3000-09223372036854775808" = .ok Int64.minValue ∧
    coerceInt "-9223372036854775809" = .error (.invalidValue "-9223372036854775809" .int) := by
  decide +kernel

/-- An unsigned integer is read from a text that spells it, in the lower half of the words
only: the text is read as a signed word first. -/
theorem read_uint_ok_iff (text : String) (value : Value) :
    Coerce.read text .uint = .ok value ↔
      ∃ word : UInt64, value = .uint word ∧ word.toNat < 2 ^ 63 ∧
        Spells text.toList word.toNat := by
  have signed : Coerce.read text .uint = .ok value ↔
      ∃ integer, Coerce.int? text.toList = some integer ∧
        ∃ word, Word.uint64? integer.toInt = some word ∧ .uint word = value := by
    unfold Coerce.read
    cases Coerce.int? text.toList with
    | none => simp
    | some integer => simp [Coerce.accepted_map_ok_iff]
  rw [signed]
  simp only [Coerce.int?_eq_some_iff, Word.uint64?_eq_some]
  constructor
  · rintro ⟨integer, spelled, word, same, rfl⟩
    have upper := integer.toInt_lt
    rw [same] at spelled
    exact ⟨word, rfl, by omega, spelled⟩
  · rintro ⟨word, rfl, lower, spelled⟩
    obtain ⟨integer, same⟩ := (Word.exists_int64_iff word.toNat).mpr (by omega)
    exact ⟨integer, same ▸ spelled, word, same.symm, rfl⟩

/-- An unsigned integer is refused by its own rule when the text spells a negative integer,
and by the rule of signed integers when the text gives no signed word. -/
theorem read_uint_error_iff (text : String) (expected : ValueType) :
    Coerce.read text .uint = .error expected ↔
      (expected = .uint ∧ ∃ n, Spells text.toList n ∧ -2 ^ 63 ≤ n ∧ n < 0) ∨
      (expected = .int ∧ ¬ ∃ n, Spells text.toList n ∧ -2 ^ 63 ≤ n ∧ n ≤ 2 ^ 63 - 1) := by
  rw [← exists_int?_iff]
  have negative : (∃ n, Spells text.toList n ∧ -2 ^ 63 ≤ n ∧ n < 0) ↔
      ∃ integer, Coerce.int? text.toList = some integer ∧ integer.toInt < 0 := by
    simp only [Coerce.int?_eq_some_iff]
    constructor
    · rintro ⟨n, spelled, lower, below⟩
      obtain ⟨integer, rfl⟩ := (Word.exists_int64_iff n).mpr (by omega)
      exact ⟨integer, spelled, below⟩
    · rintro ⟨integer, spelled, below⟩
      exact ⟨integer.toInt, spelled, integer.le_toInt, below⟩
  rw [negative]
  unfold Coerce.read
  cases Coerce.int? text.toList with
  | none => simp [eq_comm]
  | some integer =>
    have upper := integer.toInt_lt
    have refused : Word.uint64? integer.toInt = none ↔ integer.toInt < 0 := by
      rw [Word.uint64?_eq_none_iff]
      omega
    simp [Coerce.accepted_error_iff, refused, and_comm]

/-- The texts of unsigned integers are exactly the written integers from zero to `2^63 - 1`,
and the word denotes the integer that is written. The words of the upper half have no text:
what spells one of them is refused, with the signed type as the one expected, like a text
that spells no integer. So the text of an unsigned value is read as that value exactly when
the value lies in the lower half. -/
theorem coerce_uint_exact (text : String) (word : UInt64) :
    (∀ value, coerce text .uint = .ok value ↔
      ∃ read : UInt64, value = .uint read ∧ read.toNat < 2 ^ 63 ∧
        Spells text.toList read.toNat) ∧
    (∀ refusal, coerce text .uint = .error refusal ↔
      (refusal = .invalidValue text .uint ∧
        ∃ n, Spells text.toList n ∧ -2 ^ 63 ≤ n ∧ n < 0) ∨
      (refusal = .invalidValue text .int ∧
        ¬ ∃ n, Spells text.toList n ∧ -2 ^ 63 ≤ n ∧ n ≤ 2 ^ 63 - 1)) ∧
    (coerce (Value.uint word).display .uint = .ok (.uint word) ↔ word.toNat < 2 ^ 63) := by
  refine ⟨?_, ?_, ?_⟩
  · intro value
    rw [coerce_ok_iff, read_uint_ok_iff]
  · intro refusal
    rw [coerce_error_iff]
    constructor
    · rintro ⟨expected, refused, rfl⟩
      rcases (read_uint_error_iff text expected).mp refused with ⟨rfl, below⟩ | ⟨rfl, wordless⟩
      · exact .inl ⟨rfl, below⟩
      · exact .inr ⟨rfl, wordless⟩
    · rintro (⟨rfl, below⟩ | ⟨rfl, wordless⟩)
      · exact ⟨.uint, (read_uint_error_iff text .uint).mpr (.inl ⟨rfl, below⟩), rfl⟩
      · exact ⟨.int, (read_uint_error_iff text .int).mpr (.inr ⟨rfl, wordless⟩), rfl⟩
  · rw [coerce_ok_iff, read_uint_ok_iff]
    constructor
    · rintro ⟨other, same, lower, _⟩
      cases same
      exact lower
    · intro lower
      exact ⟨word, rfl, lower, Decimal.spells_natural word.toNat⟩

/-- The least unsigned word of the upper half is written as its text shows it, and this text
is refused. -/
theorem coerce_uint_upper_half :
    (Value.uint 9223372036854775808).display = "9223372036854775808" ∧
    Spells "9223372036854775808".toList (9223372036854775808 : UInt64).toNat ∧
    coerce "9223372036854775808" .uint =
      .error (.invalidValue "9223372036854775808" .int) := by
  have shown : (Value.uint 9223372036854775808).display = "9223372036854775808" := by
    decide +kernel
  refine ⟨shown, ?_, by decide⟩
  rw [← shown]
  exact Decimal.spells_natural _

end ThemeMotion
